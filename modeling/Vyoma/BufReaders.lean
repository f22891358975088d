import Mathlib.Data.List.Basic

/-!
# Lines read through a buffer

A buffering reader takes what a read of its stream returns into a buffer and hands lines
out from there. What is left in the buffer when the reader is dropped is lost. How a stream
is split into reads is not determined by the stream.
-/
namespace Vyoma.BufReaders

variable {α : Type}

/-- A way to split a stream into reads, none of which returns nothing. -/
structure Split (stream : List α) where
  reads : List (List α)
  nonempty : [] ∉ reads
  flatten_eq : reads.flatten = stream

/-- A reader with its buffer and the reads to come. -/
structure BufReader (α : Type) where
  buffer : List α
  reads : List (List α)

theorem line_append (d : α) (line rest : List α) : line ++ d :: rest = line ++ [d] ++ rest := by
  rw [List.append_assoc, List.singleton_append]

/-- A line ends in the buffer, or all of the buffer belongs to it. -/
theorem line_cases {d : α} {buffer more line rest : List α} (hline : d ∉ line)
    (h : buffer ++ more = line ++ d :: rest) :
    (∃ after, buffer = line ++ d :: after) ∨
      d ∉ buffer ∧ ∃ line', line = buffer ++ line' ∧ more = line' ++ d :: rest := by
  obtain ⟨line', rfl, hmore⟩ | ⟨after, rfl, hafter⟩ := List.append_eq_append_iff.mp h
  · exact .inr ⟨fun hmem => hline (List.mem_append_left _ hmem), line', rfl, hmore⟩
  · cases after with
    | nil =>
      rw [List.append_nil]
      exact .inr ⟨hline, [], (List.append_nil line).symm, hafter.symm⟩
    | cons c after =>
      rw [List.cons_append, List.cons.injEq] at hafter
      rw [hafter.1]
      exact .inl ⟨after, rfl⟩

variable [DecidableEq α]

/-- The elements up to a delimiter, which is taken with them, or all up to the end. -/
def readUntil (d : α) : List (List α) → List α → List α × BufReader α
  | [], buffer => (buffer.take (buffer.idxOf d + 1), ⟨buffer.drop (buffer.idxOf d + 1), []⟩)
  | r :: rs, buffer =>
    if d ∈ buffer then
      (buffer.take (buffer.idxOf d + 1), ⟨buffer.drop (buffer.idxOf d + 1), r :: rs⟩)
    else
      let out := readUntil d rs r
      (buffer ++ out.1, out.2)

theorem idxOf_append_cons {d : α} {line : List α} (hline : d ∉ line) (rest : List α) :
    (line ++ d :: rest).idxOf d + 1 = (line ++ [d]).length := by
  rw [List.idxOf_append_of_notMem hline, List.idxOf_cons_self, List.length_append,
    List.length_singleton]

theorem take_line {d : α} {line : List α} (hline : d ∉ line) (rest : List α) :
    (line ++ d :: rest).take ((line ++ d :: rest).idxOf d + 1) = line ++ [d] := by
  rw [idxOf_append_cons hline, line_append d line rest, List.take_left]

theorem drop_line {d : α} {line : List α} (hline : d ∉ line) (rest : List α) :
    (line ++ d :: rest).drop ((line ++ d :: rest).idxOf d + 1) = rest := by
  rw [idxOf_append_cons hline, line_append d line rest, List.drop_left]

/-- What a reader has done once a line is read: it stands after the first reads that hold
the delimiter, with the rest of the last of them in its buffer. -/
structure Stands (d : α) (reads : List (List α)) (buffer line : List α) (reader : BufReader α)
    (before : List (List α)) : Prop where
  reads_eq : reads = before ++ reader.reads
  buffered : buffer ++ before.flatten = line ++ d :: reader.buffer
  first : ∀ n, d ∈ buffer ++ (reads.take n).flatten → before.length ≤ n

theorem readUntil_line {d : α} {reads : List (List α)} {buffer line rest : List α}
    (hline : d ∉ line) (h : buffer ++ reads.flatten = line ++ d :: rest) :
    ∃ reader before, readUntil d reads buffer = (line ++ [d], reader) ∧
      Stands d reads buffer line reader before := by
  induction reads generalizing buffer line with
  | nil =>
    rw [List.flatten_nil, List.append_nil] at h
    subst h
    refine ⟨⟨rest, []⟩, [], ?_, rfl, List.append_nil _, fun n _ => Nat.zero_le n⟩
    rw [readUntil, take_line hline, drop_line hline]
  | cons r rs ih =>
    obtain ⟨after, rfl⟩ | ⟨hbuffer, line', rfl, hmore⟩ := line_cases hline h
    · have hmem : d ∈ line ++ d :: after := List.mem_append_right _ List.mem_cons_self
      refine ⟨⟨after, r :: rs⟩, [], ?_, rfl, List.append_nil _, fun n _ => Nat.zero_le n⟩
      rw [readUntil, if_pos hmem, take_line hline, drop_line hline]
    · -- the line goes on in the next read
      obtain ⟨reader, before, hout, hstands⟩ :=
        ih (fun hmem => hline (List.mem_append_right _ hmem)) hmore
      refine ⟨reader, r :: before, ?_, ?_, ?_, ?_⟩
      · rw [readUntil, if_neg hbuffer, hout, List.append_assoc]
      · rw [List.cons_append, ← hstands.reads_eq]
      · rw [List.flatten_cons, hstands.buffered, List.append_assoc]
      · intro n hmem
        have hlater := (List.mem_append.mp hmem).resolve_left hbuffer
        cases n with
        | zero => cases hlater
        | succ n => exact Nat.succ_le_succ (hstands.first n hlater)

/-- What is left in the reads after a line is all that follows the line exactly if one of the
reads ends with the line. -/
theorem flatten_reads_eq_iff {d : α} {reads : List (List α)} {line rest : List α}
    (hline : d ∉ line) (h : reads.flatten = line ++ d :: rest) :
    (readUntil d reads []).2.reads.flatten = rest ↔
      ∃ n, (reads.take n).flatten = line ++ [d] := by
  obtain ⟨reader, before, hout, hstands⟩ := @readUntil_line α _ d reads [] line rest hline h
  have hbefore : before.flatten = line ++ d :: reader.buffer := hstands.buffered
  have hrest : reader.buffer ++ reader.reads.flatten = rest := by
    rw [hstands.reads_eq, List.flatten_append, hbefore, List.append_assoc, List.cons_append] at h
    exact (List.cons.inj (List.append_cancel_left h)).2
  rw [hout]
  constructor
  · intro hall
    have hempty : reader.buffer = [] := by
      rw [← hrest] at hall
      exact List.self_eq_append_left.mp hall
    refine ⟨before.length, ?_⟩
    rw [hstands.reads_eq, List.take_left, hbefore, hempty]
  · rintro ⟨n, hn⟩
    -- the reads up to there hold the delimiter, so the reader has read no further
    have hmem : d ∈ (reads.take n).flatten := by
      rw [hn]
      exact List.mem_append_right _ List.mem_cons_self
    have hle : before.length ≤ n := hstands.first n hmem
    rw [hstands.reads_eq, List.take_append, List.take_of_length_le hle, List.flatten_append,
      hbefore, List.append_assoc, List.cons_append] at hn
    have hbuffer := (List.cons.inj (List.append_cancel_left hn)).2
    rw [(List.append_eq_nil_iff.mp hbuffer).1, List.nil_append] at hrest
    exact hrest

/-- A stream that is one line leaves nothing to read. -/
theorem reads_of_line {d : α} {line : List α} (hline : d ∉ line) (split : Split (line ++ [d])) :
    (readUntil d split.reads []).2.reads = [] := by
  obtain ⟨reader, before, hout, hstands⟩ :=
    @readUntil_line α _ d split.reads [] line [] hline split.flatten_eq
  have hleft := (flatten_reads_eq_iff hline split.flatten_eq).mpr
    ⟨split.reads.length, by rw [List.take_length, split.flatten_eq]⟩
  rw [hout] at hleft ⊢
  rw [List.flatten_eq_nil_iff] at hleft
  refine List.eq_nil_iff_forall_not_mem.mpr fun r hr => split.nonempty ?_
  rw [hstands.reads_eq, ← hleft r hr]
  exact List.mem_append_right _ hr

end Vyoma.BufReaders
