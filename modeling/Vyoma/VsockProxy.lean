import Vyoma.BufReaders
import Vyoma.RustText

/-!
# The proxy over vsock

A connection to a published port is passed on through the socket of the hypervisor. Both
ends agree on the port in lines before the bytes of the container follow. Each line is read
through a buffering reader of its own, which is dropped with what it has buffered. The
reads of a socket are given, and a connection ends where they do.
-/
namespace Vyoma.VsockProxy
open BufReaders RustText

abbrev Reads : Type := List (List UInt8)

def newline : UInt8 := 10

/-- `read_line` through a new reader, which is then taken apart again: the line, and the reads
that are left to the socket. -/
def readLine (failure : String) (reads : Reads) : Except String (String × Reads) :=
  let out := readUntil newline reads []
  match String.fromUTF8? out.1.toByteArray with
  | none => .error failure
  | some line => .ok (line, out.2.reads)

def startsWith (s p : String) : Bool := p.toList.isPrefixOf s.toList

/-- What the hypervisor answers to `CONNECT 10000`. -/
def backendLine (assigned : ℕ) : String := "OK " ++ toString assigned ++ "\n"

/-- The line that tells the guest which port is meant. -/
def portLine (vmPort : UInt16) : String := toString vmPort.toNat ++ "\n"

/-- The host side: the bytes that the TCP client gets. The reads of the guest come after the
port has been sent. -/
def forwardVsock (vmPort : UInt16) (backend guest : Reads) : Except String (List UInt8) := do
  let (chResponse, left) ← readLine
    "Failed to read handshake response from Cloud-Hypervisor vsock backend" backend
  if !startsWith chResponse "OK" then
    throw ("Cloud-Hypervisor rejected vsock connection to guest port 10000: " ++
      String.ofList (trim chResponse.toList))
  let (agentResponse, left) ← readLine "Failed to read confirmation from vyoma-agent-vm"
    (left ++ guest)
  if !startsWith agentResponse "OK" then
    throw ("vyoma-agent-vm rejected port forward for port " ++ toString vmPort.toNat ++ ": " ++
      String.ofList (trim agentResponse.toList))
  return left.flatten

/-- The guest side: what is sent to the host. `connect` gives what the container sends on a
port, if one of the attempts to connect to it succeeds. -/
def handleProxyConn (connect : UInt16 → Option (List UInt8)) (host : Reads) : List UInt8 :=
  match readLine "Failed to read target port line from host vsock proxy" host with
  | .error _ => []
  | .ok (portStr, _) =>
    match parseUnsigned 16 (String.ofList (trim portStr.toList)) with
    | none => []
    | some targetPort =>
      match connect (UInt16.ofNat targetPort) with
      | some bytes => utf8 "OK\n" ++ bytes
      | none => utf8 "ERR connection refused\n"

/-! ## Lines of the handshake -/

theorem utf8_line (s : String) : utf8 (s ++ "\n") = utf8 s ++ newline :: [] := by
  rw [utf8_append]
  rfl

/-- A line is read through however it is split, and what is left begins in a later read. -/
theorem readLine_line {text : String} {reads : Reads} {rest : List UInt8}
    (htext : newline ∉ utf8 text) (h : reads.flatten = utf8 (text ++ "\n") ++ rest)
    (failure : String) :
    readLine failure reads = .ok (text ++ "\n", (readUntil newline reads []).2.reads) := by
  rw [utf8_line, List.append_assoc, List.singleton_append] at h
  obtain ⟨reader, before, hout, -⟩ := @readUntil_line _ _ newline reads [] _ rest htext h
  unfold readLine
  rw [hout]
  dsimp only
  rw [← utf8_line, fromUTF8?_utf8]

theorem notMem_toString (n : ℕ) : newline ∉ utf8 (toString n) := by
  refine notMem_utf8_of_ascii (fun c hc => ?_) (fun c hc h => ?_)
  · obtain ⟨-, hhigh⟩ := toNat_of_isDigit (isDigit_of_mem_toString hc)
    rw [UInt32.le_iff_toNat_le]
    exact Nat.le_trans hhigh (by decide)
  · obtain ⟨hlow, hhigh⟩ := toNat_of_isDigit (isDigit_of_mem_toString hc)
    have hvalue := congrArg UInt8.toNat h
    have hten : newline.toNat = 10 := rfl
    rw [UInt32.toNat_toUInt8] at hvalue
    omega

theorem notMem_backend (assigned : ℕ) : newline ∉ utf8 ("OK " ++ toString assigned) := by
  rw [utf8_append, List.mem_append, not_or]
  exact ⟨by decide, notMem_toString assigned⟩

theorem startsWith_append (p s : String) : startsWith (p ++ s) p = true := by
  rw [startsWith, String.toList_append, List.isPrefixOf_iff_prefix]
  exact List.prefix_append _ _

/-- Nothing is left of a line that is all there is. -/
theorem readLine_of_line {text : String} (htext : newline ∉ utf8 text)
    (split : Split (utf8 (text ++ "\n"))) (failure : String) :
    readLine failure split.reads = .ok (text ++ "\n", []) := by
  obtain ⟨reads, hnonempty, hflatten⟩ := split
  rw [utf8_line] at hflatten
  have hleft := reads_of_line htext ⟨reads, hnonempty, hflatten⟩
  rw [← utf8_line, ← List.append_nil (utf8 (text ++ "\n"))] at hflatten
  rw [readLine_line htext hflatten, hleft]

/-- The guest finds the port that the host has sent. -/
theorem handleProxyConn_portLine {connect : UInt16 → Option (List UInt8)} {vmPort : UInt16}
    {bytes : List UInt8} (hconnect : connect vmPort = some bytes)
    (host : Split (utf8 (portLine vmPort))) :
    handleProxyConn connect host.reads = utf8 "OK\n" ++ bytes := by
  have hline := readLine_of_line (notMem_toString vmPort.toNat) host
    "Failed to read target port line from host vsock proxy"
  have htrim : trim (portLine vmPort).toList = (toString vmPort.toNat).toList := by
    rw [portLine, String.toList_append]
    exact trim_line fun c hc => isWhitespace_of_isDigit (isDigit_of_mem_toString hc)
  have hparse := @parseUnsigned_toString 16 vmPort.toNat vmPort.toNat_lt
  unfold portLine at htrim
  unfold handleProxyConn
  simp only [hline, htrim, String.ofList_toList, hparse, UInt16.ofNat_toNat, hconnect]

/-! ## The bytes that arrive -/

/-- The client gets what is left in the reads after the confirmation of the guest. -/
theorem forwardVsock_ok (vmPort : UInt16) {assigned : ℕ} {payload : List UInt8}
    (backend : Split (utf8 (backendLine assigned))) (guest : Split (utf8 "OK\n" ++ payload)) :
    forwardVsock vmPort backend.reads guest.reads =
      .ok (readUntil newline guest.reads []).2.reads.flatten := by
  have hbackend := readLine_of_line (notMem_backend assigned) backend
  have hguest := @readLine_line "OK" guest.reads payload (by decide) guest.flatten_eq
  have hok : startsWith ("OK " ++ toString assigned ++ "\n") "OK" = true := by
    rw [String.append_assoc]
    exact startsWith_append "OK" (" " ++ (toString assigned ++ "\n"))
  have hconfirmed : startsWith ("OK" ++ "\n") "OK" = true := startsWith_append "OK" "\n"
  unfold forwardVsock
  simp only [hbackend, hguest, hok, hconfirmed, List.nil_append, bind, Except.bind]
  rfl

/-- The client gets all that the container sends exactly if a read of the host ends with the
confirmation of the guest. -/
theorem guest_bytes_delivered_iff {vmPort : UInt16} {assigned : ℕ} {payload : List UInt8}
    {connect : UInt16 → Option (List UInt8)} (hconnect : connect vmPort = some payload)
    (backend : Split (utf8 (backendLine assigned))) (host : Split (utf8 (portLine vmPort)))
    (guest : Split (handleProxyConn connect host.reads)) :
    forwardVsock vmPort backend.reads guest.reads = .ok payload ↔
      ∃ n, (guest.reads.take n).flatten = utf8 "OK\n" := by
  obtain ⟨reads, hnonempty, hflatten⟩ := guest
  rw [handleProxyConn_portLine hconnect] at hflatten
  have hline : reads.flatten = utf8 "OK" ++ newline :: payload := hflatten
  rw [forwardVsock_ok vmPort backend ⟨reads, hnonempty, hflatten⟩, Except.ok.injEq,
    flatten_reads_eq_iff (by decide) hline]
  exact Iff.rfl

def greetingPort : UInt16 := 80

/-- A container that greets whoever connects to its port. -/
def greeter (port : UInt16) : Option (List UInt8) :=
  if port = greetingPort then some (utf8 "hi") else none

def backendRead : Split (utf8 (backendLine 1073741824)) :=
  ⟨[utf8 (backendLine 1073741824)], by decide, List.append_nil _⟩

def portRead : Split (utf8 (portLine greetingPort)) :=
  ⟨[utf8 (portLine greetingPort)], by decide, List.append_nil _⟩

theorem greeter_sends : handleProxyConn greeter portRead.reads = utf8 "OK\n" ++ utf8 "hi" :=
  handleProxyConn_portLine rfl portRead

/-- A greeting that comes in a read of its own arrives. -/
theorem greeting_delivered :
    forwardVsock greetingPort backendRead.reads [utf8 "OK\n", utf8 "hi"] = .ok (utf8 "hi") :=
  (guest_bytes_delivered_iff rfl backendRead portRead
    ⟨[utf8 "OK\n", utf8 "hi"], by decide, greeter_sends.symm⟩).mpr ⟨1, rfl⟩

/-- A greeting that is read together with the confirmation is lost. -/
theorem greeting_lost :
    handleProxyConn greeter portRead.reads = utf8 "OK\n" ++ utf8 "hi" ∧
      forwardVsock greetingPort backendRead.reads [utf8 "OK\n" ++ utf8 "hi"] ≠
        .ok (utf8 "hi") := by
  refine ⟨greeter_sends, ?_⟩
  rw [forwardVsock_ok greetingPort backendRead
    ⟨[utf8 "OK\n" ++ utf8 "hi"], by decide, List.append_nil _⟩]
  intro h
  have hlost := Except.ok.inj h
  revert hlost
  decide

end Vyoma.VsockProxy
