import Mathlib.Data.List.Basic

/-!
# Reading from a byte stream

A `bufio.Reader` over a connection, as the bytes that are still to come.
-/
namespace Porter.Go

def readBytes (delim : UInt8) : List UInt8 → Option (List UInt8 × List UInt8)
  | [] => none
  | b :: stream =>
    if b = delim then some ([b], stream)
    else (readBytes delim stream).map (fun read => (b :: read.1, read.2))

inductive ShortRead where
  | eof
  | unexpectedEOF

def readFull (n : Nat) (stream : List UInt8) : Except ShortRead (List UInt8 × List UInt8) :=
  if n ≤ stream.length then .ok (stream.take n, stream.drop n)
  else if stream.isEmpty then .error .eof
  else .error .unexpectedEOF

theorem readBytes_append {delim : UInt8} {line : List UInt8} (inside : delim ∉ line)
    (stream : List UInt8) :
    readBytes delim (line ++ delim :: stream) = some (line ++ [delim], stream) := by
  induction line with
  | nil => simp [readBytes]
  | cons b rest recurse =>
    have first : b ≠ delim := fun same => inside (same ▸ List.mem_cons_self)
    have later : delim ∉ rest := fun member => inside (List.mem_cons_of_mem _ member)
    rw [List.cons_append, readBytes, if_neg first, recurse later]
    rfl

theorem readBytes_eq_some {delim : UInt8} {stream line rest : List UInt8}
    (read : readBytes delim stream = some (line, rest)) :
    ∃ front, line = front ++ [delim] ∧ delim ∉ front ∧ stream = front ++ delim :: rest := by
  induction stream generalizing line with
  | nil => simp [readBytes] at read
  | cons b tail recurse =>
    rw [readBytes] at read
    split at read
    next ends =>
      obtain ⟨rfl, rfl⟩ := Prod.mk.inj (Option.some.inj read)
      rw [ends]
      exact ⟨[], rfl, List.not_mem_nil, rfl⟩
    next apart =>
      obtain ⟨⟨later, after⟩, found, same⟩ := Option.map_eq_some_iff.mp read
      obtain ⟨rfl, rfl⟩ := Prod.mk.inj same
      obtain ⟨front, rfl, inside, rfl⟩ := recurse found
      refine ⟨b :: front, rfl, ?_, rfl⟩
      intro member
      rcases List.mem_cons.mp member with first | later
      · exact apart first.symm
      · exact inside later

theorem readFull_eq_ok {n : Nat} {stream front rest : List UInt8}
    (read : readFull n stream = .ok (front, rest)) : stream = front ++ rest := by
  unfold readFull at read
  split at read
  · obtain ⟨rfl, rfl⟩ := Prod.mk.inj (Except.ok.inj read)
    exact (List.take_append_drop n stream).symm
  · split at read
    · contradiction
    · contradiction

theorem readFull_append (front stream : List UInt8) :
    readFull front.length (front ++ stream) = .ok (front, stream) := by
  unfold readFull
  rw [if_pos (by simp), List.take_left, List.drop_left]

end Porter.Go
