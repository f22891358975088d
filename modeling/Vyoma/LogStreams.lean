import Vyoma.Utf8Chunks

/-!
# The log stream

`logs` follows the daemon's stream of server-sent events. Every network chunk is decoded by
itself and put behind what is left of the line before; each line that is complete is taken
off, and the data of an event is printed.
-/
namespace Vyoma.Cli

open Vyoma.RustText

/-- What is printed of a line. -/
def dataText (line : List Char) : Option (List Char) :=
  if "data: ".toList.isPrefixOf line then some (line.drop 6) else none

/-- The inner loop: the lines that are printed, and what stays in the buffer. -/
def printLines (buffer : List Char) : List (List Char) × List Char :=
  match _ : buffer.findIdx? (· = '\n') with
  | some idx =>
    let line := buffer.take idx
    let more := printLines (buffer.drop (idx + 1))
    ((dataText line).toList ++ more.1, more.2)
  | none => ([], buffer)
termination_by buffer.length
decreasing_by
  have hidx := (List.findIdx?_eq_some_iff_getElem.mp ‹_ = some idx›).1
  rw [List.length_drop]
  omega

/-- The loop over the chunks, from a buffer on: what is printed, and the error it ends with. -/
def streamLogs {ε : Type*} (buffer : List Char) :
    List (Except ε (List UInt8)) → List (List Char) × Except ε Unit
  | [] => ([], .ok ())
  | .error e :: _ => ([], .error e)
  | .ok bytes :: stream =>
    let taken := printLines (buffer ++ fromUtf8Lossy bytes)
    let more := streamLogs taken.2 stream
    (taken.1 ++ more.1, more.2)

/-- The data of the events that a text of lines holds. -/
def eventData (text : String) : List (List Char) :=
  (text.toList.splitOn '\n').filterMap dataText

/-- No chunk ends inside a character of an event's data. -/
def DataUncut (chunks : List (List UInt8)) (text : String) : Prop :=
  ∀ line ∈ (marked (ends chunks) 0 text.toList).splitOnP (fun m => m.1 == '\n'),
    "data: ".toList.isPrefixOf (line.map Prod.fst) → ∀ m ∈ line, m.2 = false

/-! ## Lines -/

theorem printLines_of_notMem {buffer : List Char} (h : '\n' ∉ buffer) :
    printLines buffer = ([], buffer) := by
  have hfind : buffer.findIdx? (· = '\n') = none := by
    rw [List.findIdx?_eq_none_iff]
    rintro c hc
    exact decide_eq_false fun he => h (he ▸ hc)
  rw [printLines]
  split
  · rename_i hsome
    rw [hfind] at hsome
    cases hsome
  · rfl

theorem printLines_line {line : List Char} (h : '\n' ∉ line) (rest : List Char) :
    printLines (line ++ '\n' :: rest) =
      ((dataText line).toList ++ (printLines rest).1, (printLines rest).2) := by
  have hfind : (line ++ '\n' :: rest).findIdx? (· = '\n') = some line.length := by
    have hline : line.findIdx? (· = '\n') = none := by
      rw [List.findIdx?_eq_none_iff]
      rintro c hc
      exact decide_eq_false fun he => h (he ▸ hc)
    rw [List.findIdx?_append, hline, List.findIdx?_cons]
    simp
  rw [printLines]
  split
  · rename_i idx hsome
    obtain rfl := Option.some.inj (hfind.symm.trans hsome)
    rw [List.take_left, List.drop_length_add_append]
    rfl
  · rename_i hnone
    rw [hfind] at hnone
    cases hnone

/-- A text is taken apart line by line. -/
theorem lines_induction {motive : List Char → Prop}
    (rest : ∀ buffer, '\n' ∉ buffer → motive buffer)
    (line : ∀ line buffer, '\n' ∉ line → motive buffer → motive (line ++ '\n' :: buffer))
    (buffer : List Char) : motive buffer := by
  by_cases h : '\n' ∈ buffer
  · obtain ⟨first, more, hbuffer, hfirst⟩ := List.eq_append_cons_of_mem h
    have hlength : more.length < buffer.length := by
      rw [hbuffer, List.length_append, List.length_cons]
      omega
    exact hbuffer ▸ line first more hfirst (lines_induction rest line more)
  · exact rest buffer h
termination_by buffer.length

/-- What is left holds no line that is complete. -/
theorem notMem_printLines (buffer : List Char) : '\n' ∉ (printLines buffer).2 := by
  induction buffer using lines_induction with
  | rest buffer h => rwa [printLines_of_notMem h]
  | line line buffer h ih => rwa [printLines_line h]

/-- What comes later is printed behind what is printed already. -/
theorem printLines_append (buffer more : List Char) : printLines (buffer ++ more) =
    ((printLines buffer).1 ++ (printLines ((printLines buffer).2 ++ more)).1,
      (printLines ((printLines buffer).2 ++ more)).2) := by
  induction buffer using lines_induction with
  | rest buffer h => rw [printLines_of_notMem h, List.nil_append]
  | line line buffer h ih =>
    rw [List.append_assoc, List.cons_append, printLines_line h, printLines_line h, ih,
      List.append_assoc]

/-- The data of the lines of a text that ends with a line end. -/
theorem printLines_lines (cs : List Char) :
    (printLines (cs ++ ['\n'])).1 = (cs.splitOn '\n').filterMap dataText := by
  induction cs using lines_induction with
  | rest cs h =>
    rw [printLines_line h, List.splitOn_eq_singleton h, printLines_of_notMem List.not_mem_nil]
    cases hdata : dataText cs <;> simp [hdata]
  | line line cs h ih =>
    rw [List.append_assoc, List.cons_append, printLines_line h, ih,
      List.splitOn_append_cons_self_of_not_mem h]
    cases hdata : dataText line <;> simp [hdata]

/-- The chunks are printed as their texts are, put together. -/
theorem streamLogs_eq {ε : Type*} {buffer : List Char} (h : '\n' ∉ buffer)
    (chunks : List (List UInt8)) : streamLogs (ε := ε) buffer (chunks.map .ok) =
      ((printLines (buffer ++ chunks.flatMap fromUtf8Lossy)).1, .ok ()) := by
  induction chunks generalizing buffer with
  | nil =>
    rw [List.flatMap_nil, List.append_nil, printLines_of_notMem h]
    rfl
  | cons chunk chunks ih =>
    rw [List.map_cons, streamLogs, ih (notMem_printLines _), List.flatMap_cons,
      ← List.append_assoc, printLines_append (buffer ++ fromUtf8Lossy chunk)]

/-! ## Cut characters -/

/-- The data of a line is printed unchanged when the line is decoded unchanged. -/
theorem dataText_decoded {line : List (Char × Bool)} {ds : List Char} (h : Decoded line ds) :
    (dataText ds).isSome = (dataText (line.map Prod.fst)).isSome ∧
      (dataText ds = dataText (line.map Prod.fst) ↔
        ("data: ".toList.isPrefixOf (line.map Prod.fst) → ∀ m ∈ line, m.2 = false)) := by
  have hstarts := h.isPrefixOf (w := "data: ".toList) (by decide)
  unfold dataText
  rw [hstarts]
  split_ifs with hdata
  · refine ⟨rfl, ?_⟩
    obtain ⟨t, ht⟩ := List.isPrefixOf_iff_prefix.mp hdata
    obtain ⟨t', ht'⟩ := List.isPrefixOf_iff_prefix.mp (hstarts.trans hdata)
    rw [imp_iff_right hdata, ← h.eq_map_fst_iff, ← ht, ← ht', Option.some_inj,
      List.append_right_inj]
    exact Iff.rfl
  · exact ⟨rfl, iff_of_true rfl fun hyes => absurd hyes hdata⟩

theorem filterMap_dataText_iff {lines : List (List (Char × Bool))} {dss : List (List Char)}
    (h : List.Forall₂ Decoded lines dss) :
    dss.filterMap dataText = (lines.map (List.map Prod.fst)).filterMap dataText ↔
      ∀ line ∈ lines, "data: ".toList.isPrefixOf (line.map Prod.fst) → ∀ m ∈ line, m.2 = false := by
  induction h with
  | nil => simp
  | @cons line ds lines dss hline _ ih =>
    obtain ⟨hsome, heq⟩ := dataText_decoded hline
    rw [List.forall_mem_cons, ← heq, ← ih, List.map_cons, List.filterMap_cons, List.filterMap_cons]
    cases hds : dataText ds with
    | none =>
      rw [hds, Option.isSome_none, eq_comm, Option.isSome_eq_false_iff, Option.isNone_iff_eq_none]
        at hsome
      rw [hsome, and_iff_right rfl]
    | some t =>
      rw [hds, Option.isSome_some, eq_comm, Option.isSome_iff_exists] at hsome
      obtain ⟨t', ht'⟩ := hsome
      rw [ht', List.cons_eq_cons, Option.some_inj]

/-- The line end of the last line stays, whatever is cut before it. -/
theorem decoded_text {text : String} {chunks : List (List UInt8)}
    (h : chunks.flatten = utf8 (text ++ "\n")) :
    ∃ ds, chunks.flatMap fromUtf8Lossy = ds ++ ['\n'] ∧
      Decoded (marked (ends chunks) 0 text.toList) ds := by
  rw [utf8_eq_flatMap, String.toList_append] at h
  have hdecoded : Decoded (marked (ends chunks) 0 (text.toList ++ "\n".toList))
      (chunks.flatMap fromUtf8Lossy) := decoded_chunks h fun n => by rw [Nat.zero_add]
  rw [marked_append] at hdecoded
  exact hdecoded.concat (by decide)

/-- The stream is printed as its text says when no chunk ends inside a character of the data. -/
theorem streamLogs_iff {ε : Type*} {text : String} {chunks : List (List UInt8)}
    (h : chunks.flatten = utf8 (text ++ "\n")) :
    streamLogs (ε := ε) [] (chunks.map .ok) = (eventData text, .ok ()) ↔ DataUncut chunks text := by
  obtain ⟨ds, hds, hdecoded⟩ := decoded_text h
  have hlines := filterMap_dataText_iff (hdecoded.splitOn (by decide : '\n'.val ≤ 127))
  rw [← splitOn_map_fst, map_fst_marked] at hlines
  rw [streamLogs_eq List.not_mem_nil, List.nil_append, hds, printLines_lines, Prod.mk.injEq,
    and_iff_left rfl]
  exact hlines

/-- The line arrives in three chunks that end inside the prefix and before the last letter. -/
theorem streamLogs_whole : streamLogs (ε := String) []
    [.ok [0x64, 0x61], .ok [0x74, 0x61, 0x3A, 0x20], .ok [0xC3, 0xA9, 0x0A]] =
      (eventData "data: é", .ok ()) := by
  have hstream : [[0x64, 0x61], [0x74, 0x61, 0x3A, 0x20], [0xC3, 0xA9, 0x0A]].flatten =
      utf8 ("data: é" ++ "\n") := by decide +kernel
  refine (streamLogs_iff hstream).mpr ?_
  unfold DataUncut
  decide +kernel

/-- A chunk that ends inside the last letter leaves two replacements of it. -/
theorem streamLogs_cut :
    [[0x64, 0x61, 0x74, 0x61, 0x3A, 0x20, 0xC3], [0xA9, 0x0A]].flatten = utf8 ("data: é" ++ "\n") ∧
      eventData "data: é" = [['é']] ∧
      streamLogs (ε := String) []
        [.ok [0x64, 0x61, 0x74, 0x61, 0x3A, 0x20, 0xC3], .ok [0xA9, 0x0A]] =
          ([[replacement, replacement]], .ok ()) := by
  refine ⟨by decide +kernel, by decide +kernel, ?_⟩
  have hchunks := streamLogs_eq (ε := String) (List.not_mem_nil : '\n' ∉ [])
    [[0x64, 0x61, 0x74, 0x61, 0x3A, 0x20, 0xC3], [0xA9, 0x0A]]
  have hdecoded : [[0x64, 0x61, 0x74, 0x61, 0x3A, 0x20, 0xC3], [0xA9, 0x0A]].flatMap fromUtf8Lossy =
      ['d', 'a', 't', 'a', ':', ' ', replacement, replacement] ++ ['\n'] := by decide +kernel
  rw [hdecoded, List.nil_append, printLines_lines] at hchunks
  exact hchunks.trans (congrArg (·, _) (by decide +kernel))

end Vyoma.Cli
