import Mathlib.Data.List.DropRight
import Mathlib.Data.List.Perm.Basic
import Vyoma.HashMaps
import Vyoma.SocketAddrs
import Vyoma.TextSearch

/-!
# Names of machines

The daemon answers queries for the addresses of its VMs, by their ids and host names, and sends
all others on as they are. A host name may belong to several VMs, whose addresses are all given;
the map of the VMs has no order of its own. Reading and building packets are parameters, and so
is what the server upstream answers.
-/
namespace Vyoma.Dns
open SocketAddrs TextSearch

/-- A question, with its name as it is written. -/
structure Question where
  qname : String
  qtype : UInt16
  deriving DecidableEq, Repr

structure Packet where
  id : UInt16
  response : Bool
  questions : List Question

/-- A record of type `A` and class `IN`. -/
structure ResourceRecord where
  name : String
  ttl : UInt32
  address : Ipv4Addr
  deriving DecidableEq, Repr

structure Reply where
  id : UInt16
  answers : List ResourceRecord
  deriving DecidableEq, Repr

/-- What the server reads of a VM. -/
structure VmRecord where
  id : String
  hostname : Option String
  ipAddress : String
  deriving DecidableEq, Repr

abbrev Vms : Type := HashMap String VmRecord

def TYPE_A : UInt16 := 1

def suffix : List Char := ".vyoma".toList

/-- A name under the domain of the VMs, or a simple host name. -/
def isLocal (name : List Char) : Bool := suffix.isSuffixOf name || '.' ∉ name

def searchName (name : List Char) : String :=
  String.ofList ((trimEndMatches suffix name).rdropWhile (· = '.'))

/-- `str::parse::<Ipv4Addr>`. -/
def parseIpv4Addr (text : List Char) : Option Ipv4Addr :=
  match readIpv4Addr text with
  | some (ip, []) => some ip
  | _ => none

/-- The address of a VM, without the length of its prefix. -/
def VmRecord.address (vm : VmRecord) : Option Ipv4Addr :=
  parseIpv4Addr (vm.ipAddress.toList.takeWhile (· ≠ '/'))

def candidates (vms : Vms) (name : String) : List VmRecord :=
  match vms.lookup name with
  | some vm => [vm]
  | none => vms.pairs.map Prod.snd

def resolve (vms : Vms) (name : String) : List Ipv4Addr :=
  (candidates vms name).filterMap fun vm =>
    if vm.id = name ∨ vm.hostname = some name then vm.address else none

def answersFor (vms : Vms) (question : Question) : List ResourceRecord :=
  if question.qtype = TYPE_A ∧ isLocal question.qname.toList then
    (resolve vms (searchName question.qname.toList)).map fun ip => ⟨question.qname, 10, ip⟩
  else []

section Server

variable (parse : List UInt8 → Except String Packet) (build : Reply → Except String (List UInt8))
  (forward : List UInt8 → Except String (List UInt8))

def handleConn (vms : Vms) (buf : List UInt8) : Except String (List UInt8) := do
  let packet ← parse buf
  if packet.response then return []
  let answers := packet.questions.flatMap (answersFor vms)
  if answers.isEmpty then forward buf else build ⟨packet.id, answers⟩

end Server

/-! ## Who has a name -/

/-- The VMs that a name stands for: the one with that id, or else those with that host name. -/
def owners (vms : Vms) (name : String) : List VmRecord :=
  let all := vms.pairs.map Prod.snd
  if all.any fun vm => vm.id = name then all.filter fun vm => vm.id = name
  else all.filter fun vm => vm.hostname = some name

/-- Every VM is stored under its id. -/
def Keyed (vms : Vms) : Prop := ∀ e ∈ vms.pairs, e.2.id = e.1

instance (vms : Vms) : Decidable (Keyed vms) :=
  inferInstanceAs (Decidable (∀ e ∈ vms.pairs, e.2.id = e.1))

theorem Keyed.mem_values {vms : Vms} (hkeyed : Keyed vms) {vm : VmRecord} :
    vm ∈ vms.pairs.map Prod.snd ↔ vms.lookup vm.id = some vm := by
  rw [List.mem_map, ← HashMap.mem_pairs]
  constructor
  · rintro ⟨⟨key, vm⟩, he, rfl⟩
    have hid : vm.id = key := hkeyed _ he
    rwa [hid]
  · intro h
    exact ⟨_, h, rfl⟩

theorem Keyed.filter_id {vms : Vms} (hkeyed : Keyed vms) {name : String} {vm : VmRecord}
    (h : vms.lookup name = some vm) :
    (vms.pairs.map Prod.snd).filter (fun vm => vm.id = name) = [vm] := by
  have hkeys : ∀ e ∈ vms.pairs, ((fun vm => decide (vm.id = name)) ∘ Prod.snd) e =
      decide (e.1 = name) := fun e he => by rw [Function.comp_apply, hkeyed e he]
  rw [List.filter_map, List.filter_congr hkeys, HashMap.filter_pairs_key h]
  rfl

theorem Keyed.any_id_iff {vms : Vms} (hkeyed : Keyed vms) (name : String) :
    ((vms.pairs.map Prod.snd).any fun vm => vm.id = name) = (vms.lookup name).isSome := by
  rw [Bool.eq_iff_iff, List.any_eq_true, Option.isSome_iff_exists]
  constructor
  · rintro ⟨vm, hvm, hid⟩
    exact ⟨vm, of_decide_eq_true hid ▸ hkeyed.mem_values.mp hvm⟩
  · rintro ⟨vm, hvm⟩
    have hid : vm.id = name := hkeyed _ (HashMap.mem_pairs.mpr hvm)
    exact ⟨vm, hkeyed.mem_values.mpr (hid.symm ▸ hvm), decide_eq_true hid⟩

theorem Keyed.resolve_eq {vms : Vms} (hkeyed : Keyed vms) (name : String) :
    resolve vms name = (owners vms name).filterMap VmRecord.address := by
  unfold resolve owners candidates
  dsimp only
  rw [hkeyed.any_id_iff]
  cases hlookup : vms.lookup name with
  | some vm =>
    have hid : vm.id = name := hkeyed _ (HashMap.mem_pairs.mpr hlookup)
    rw [Option.isSome_some, if_pos rfl, hkeyed.filter_id hlookup]
    refine List.filterMap_congr fun v hv => if_pos (.inl ?_)
    rw [List.mem_singleton.mp hv, hid]
  | none =>
    rw [Option.isSome_none, if_neg Bool.false_ne_true, List.filterMap_filter]
    refine List.filterMap_congr fun vm hvm => ?_
    have hid : vm.id ≠ name := by
      rintro rfl
      cases hlookup.symm.trans (hkeyed.mem_values.mp hvm)
    simp only [hid, false_or, decide_eq_true_eq]

theorem owners_perm {vms vms' : Vms} (h : HashMap.SameContents vms vms') (name : String) :
    (owners vms name).Perm (owners vms' name) := by
  have hvalues := h.pairs.map Prod.snd
  have hany : ((vms.pairs.map Prod.snd).any fun vm => vm.id = name) =
      (vms'.pairs.map Prod.snd).any fun vm => vm.id = name := by
    rw [Bool.eq_iff_iff, List.any_eq_true, List.any_eq_true]
    exact exists_congr fun vm => and_congr_left' hvalues.mem_iff
  unfold owners
  dsimp only
  rw [hany]
  split_ifs
  · exact hvalues.filter _
  · exact hvalues.filter _

/-! ## Names as they are asked for -/

/-- The host name, with the domain of the VMs behind it any number of times. -/
def Question.Asks (question : Question) (host : String) : Prop :=
  question.qtype = TYPE_A ∧
    ∃ k, question.qname.toList = host.toList ++ (List.replicate k suffix).flatten

theorem trimEndMatches_suffixes {cs : List Char} (hdot : '.' ∉ cs) (k : ℕ) :
    trimEndMatches suffix (cs ++ (List.replicate k suffix).flatten) = cs := by
  induction k with
  | zero =>
    rw [List.replicate_zero, List.flatten_nil, List.append_nil]
    refine trimEndMatches_of_not_suffix fun hsuffix => hdot (hsuffix.subset ?_)
    decide
  | succ k ih =>
    rw [List.replicate_succ', List.flatten_append, List.flatten_singleton, ← List.append_assoc,
      trimEndMatches_append (by decide), ih]

/-- A host name without dots is what is searched for. -/
theorem Question.Asks.searched {question : Question} {host : String} (h : question.Asks host)
    (hdot : '.' ∉ host.toList) : isLocal question.qname.toList = true ∧
      searchName question.qname.toList = host := by
  obtain ⟨-, k, hname⟩ := h
  rw [hname]
  constructor
  · cases k with
    | zero => simp [isLocal, hdot]
    | succ k =>
      have hsuffix : suffix.isSuffixOf
          (host.toList ++ (List.replicate (k + 1) suffix).flatten) = true := by
        rw [List.isSuffixOf_iff_suffix, List.replicate_succ', List.flatten_append,
          List.flatten_singleton, ← List.append_assoc]
        exact List.suffix_append _ _
      rw [isLocal, hsuffix, Bool.true_or]
  · have hend : host.toList.rdropWhile (· = '.') = host.toList := by
      rw [List.rdropWhile_eq_self_iff]
      intro hne hlast
      exact hdot (of_decide_eq_true hlast ▸ List.getLast_mem hne)
    rw [searchName, trimEndMatches_suffixes hdot, hend, String.ofList_toList]

/-! ## What a query comes to -/

/-- The addresses that a question is answered with: those of the VMs with the name. -/
def Question.addresses (question : Question) (vms : Vms) : List Ipv4Addr :=
  if question.qtype = TYPE_A ∧ isLocal question.qname.toList then
    (owners vms (searchName question.qname.toList)).filterMap VmRecord.address
  else []

theorem answersFor_perm {vms vms' : Vms} (hkeyed : Keyed vms')
    (h : HashMap.SameContents vms vms') (question : Question) :
    (answersFor vms' question).Perm
      ((question.addresses vms).map fun ip => ⟨question.qname, 10, ip⟩) := by
  unfold answersFor Question.addresses
  split_ifs
  · rw [hkeyed.resolve_eq]
    exact ((owners_perm h _).symm.filterMap _).map _
  · exact .nil

theorem Question.Asks.addresses {question : Question} {host : String} (h : question.Asks host)
    (hdot : '.' ∉ host.toList) (vms : Vms) :
    question.addresses vms = (owners vms host).filterMap VmRecord.address := by
  obtain ⟨hlocal, hsearch⟩ := h.searched hdot
  rw [Question.addresses, if_pos ⟨h.1, hlocal⟩, hsearch]

/-- Two replicas and a VM without a name. -/
def replicas : Vms :=
  (((∅ : Vms).insert "vm1" ⟨"vm1", some "web", "172.16.0.2/24"⟩).insert "vm2"
    ⟨"vm2", some "web", "172.16.0.3/24"⟩).insert "vm3" ⟨"vm3", none, "172.16.0.4/24"⟩

def webQuery : Packet := ⟨7, false, [⟨"web.vyoma", 1⟩]⟩

example : Question.addresses ⟨"web.vyoma", 1⟩ replicas = [⟨172, 16, 0, 3⟩, ⟨172, 16, 0, 2⟩] := by
  decide

end Vyoma.Dns
