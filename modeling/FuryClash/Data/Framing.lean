import Mathlib.Data.List.Basic

namespace FuryClash.Data

universe u v

/-! A stream of frames that is read in pieces: which frames have fully arrived,
and what is held of the one behind them. -/

variable {Frame : Type u} {Byte : Type v} (bytes : Frame → List Byte)

def arrived : List Frame → (count : Nat) → List Frame
  | [], _ => []
  | frame :: rest, count =>
      if (bytes frame).length ≤ count then
        frame :: arrived rest (count - (bytes frame).length)
      else []

def remainder : List Frame → (count : Nat) → List Byte
  | [], _ => []
  | frame :: rest, count =>
      if (bytes frame).length ≤ count then
        remainder rest (count - (bytes frame).length)
      else (bytes frame).take count

/-- `done` has been taken from the stream of `frames`, and of the others `held`
is there and `rest` is not. -/
structure Framed (frames done todo : List Frame) (held rest : List Byte) :
    Prop where
  frames : frames = done ++ todo
  bytes : held ++ rest = todo.flatMap bytes

def Short (todo : List Frame) (held : List Byte) : Prop :=
  ∀ frame ∈ todo.head?, held.length < (bytes frame).length

variable {bytes} {frames done todo : List Frame} {held rest : List Byte}
  {frame : Frame}

namespace Framed

theorem start (frames : List Frame) :
    Framed bytes frames [] frames [] (frames.flatMap bytes) :=
  ⟨rfl, rfl⟩

theorem receive {data : List Byte}
    (framed : Framed bytes frames done todo held (data ++ rest)) :
    Framed bytes frames done todo (held ++ data) rest :=
  ⟨framed.frames, (List.append_assoc _ _ _).trans framed.bytes⟩

theorem complete
    (framed : Framed bytes frames done (frame :: todo)
      (bytes frame ++ held) rest) :
    Framed bytes frames (done ++ [frame]) todo held rest := by
  constructor
  · rw [framed.frames, List.append_assoc]
    rfl
  · have split := framed.bytes
    rw [List.flatMap_cons, List.append_assoc] at split
    exact List.append_cancel_left split

/-- More frames join the stream. -/
theorem extend (framed : Framed bytes frames done todo held rest)
    (more : List Frame) :
    Framed bytes (frames ++ more) done (todo ++ more) held
      (rest ++ more.flatMap bytes) := by
  constructor
  · rw [framed.frames, List.append_assoc]
  · rw [← List.append_assoc, framed.bytes, List.flatMap_append]

theorem next (framed : Framed bytes frames done todo held rest)
    (some_held : held ≠ []) :
    ∃ frame later, todo = frame :: later ∧
      ((∃ behind, held = bytes frame ++ behind) ∨
        ∃ missing, missing ≠ [] ∧ held ++ missing = bytes frame) := by
  cases todo with
  | nil =>
      have none_held := (List.append_eq_nil_iff.mp framed.bytes).1
      exact absurd none_held some_held
  | cons frame later =>
      refine ⟨frame, later, rfl, ?_⟩
      have split := framed.bytes
      rw [List.flatMap_cons] at split
      rcases List.append_eq_append_iff.mp split with
        ⟨missing, whole, _⟩ | ⟨behind, longer, _⟩
      · by_cases none_missing : missing = []
        · subst none_missing
          rw [List.append_nil] at whole
          exact .inl ⟨[], by rw [whole, List.append_nil]⟩
        · exact .inr ⟨missing, none_missing, whole.symm⟩
      · exact .inl ⟨behind, longer⟩

theorem length (framed : Framed bytes frames done todo held rest) :
    (frames.flatMap bytes).length =
      (done.flatMap bytes).length + held.length + rest.length := by
  rw [framed.frames, List.flatMap_append, ← framed.bytes, List.length_append,
    List.length_append, Nat.add_assoc]

/-- As long as nothing complete is held, the frames taken are those that have
arrived. -/
theorem arrived_eq (framed : Framed bytes frames done todo held rest)
    (short : Short bytes todo held) :
    done = arrived bytes frames
        ((done.flatMap bytes).length + held.length) ∧
      held = remainder bytes frames
        ((done.flatMap bytes).length + held.length) := by
  obtain ⟨rfl, split⟩ := framed
  induction done with
  | nil =>
      rw [List.flatMap_nil, List.length_nil, Nat.zero_add, List.nil_append]
      cases todo with
      | nil =>
          have none_held := (List.append_eq_nil_iff.mp split).1
          exact ⟨rfl, none_held⟩
      | cons frame later =>
          have less := short frame rfl
          have more : ¬ (bytes frame).length ≤ held.length := by omega
          rw [arrived, if_neg more, remainder, if_neg more]
          refine ⟨rfl, ?_⟩
          rw [List.flatMap_cons] at split
          have cut := congrArg (List.take held.length) split
          rwa [List.take_left, List.take_append_of_le_length
            (Nat.le_of_lt less)] at cut
  | cons frame earlier ih =>
      have within : (bytes frame).length ≤
          ((frame :: earlier).flatMap bytes).length + held.length := by
        rw [List.flatMap_cons, List.length_append]
        omega
      have left : ((frame :: earlier).flatMap bytes).length + held.length -
          (bytes frame).length =
            (earlier.flatMap bytes).length + held.length := by
        rw [List.flatMap_cons, List.length_append]
        omega
      rw [List.cons_append, arrived, if_pos within, remainder, if_pos within,
        left, ← ih.1, ← ih.2]
      exact ⟨rfl, rfl⟩

end Framed

end FuryClash.Data
