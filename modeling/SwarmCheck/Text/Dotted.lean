/-!
# Dotted names

A reference such as `Motion.target.x` is a list of segments joined by dots. Every text has at
least one segment, and joining the segments of a text gives the text back. No other list of parts
without dots does.
-/

namespace SwarmCheck.Text

set_option autoImplicit false

def splitDots : List Char → List (List Char)
  | [] => [[]]
  | c :: rest =>
      if c = '.' then [] :: splitDots rest
      else
        match splitDots rest with
        | [] => [[c]]
        | segment :: others => (c :: segment) :: others

def segments (text : String) : List String :=
  (splitDots text.toList).map String.ofList

def joinDots : List String → String
  | [] => ""
  | [segment] => segment
  | segment :: rest => segment ++ "." ++ joinDots rest

theorem splitDots_ne_nil (chars : List Char) : splitDots chars ≠ [] := by
  cases chars with
  | nil => simp [splitDots]
  | cons c rest =>
      simp only [splitDots]
      split
      · simp
      · split <;> simp

theorem segments_ne_nil (text : String) : segments text ≠ [] := by
  simp [segments, splitDots_ne_nil]

theorem joinDots_append_cons (first second : String) (rest : List String) :
    joinDots ((first ++ second) :: rest) = first ++ joinDots (second :: rest) := by
  cases rest with
  | nil => rfl
  | cons next others => simp [joinDots, String.append_assoc]

theorem joinDots_splitDots (chars : List Char) :
    joinDots ((splitDots chars).map String.ofList) = String.ofList chars := by
  induction chars with
  | nil => rfl
  | cons c rest ih =>
      cases split : splitDots rest with
      | nil => exact absurd split (splitDots_ne_nil rest)
      | cons segment others =>
          rw [split] at ih
          simp only [splitDots, split]
          split
          · rename_i dot
            subst dot
            simp only [List.map_cons, joinDots] at ih ⊢
            rw [ih]
            simp
          · simp only [List.map_cons] at ih ⊢
            have extended : String.ofList (c :: segment) =
                String.ofList [c] ++ String.ofList segment := by
              rw [← String.ofList_append, List.singleton_append]
            rw [extended, joinDots_append_cons, ih, ← String.ofList_append,
              List.singleton_append]

theorem joinDots_segments (text : String) : joinDots (segments text) = text := by
  simp [segments, joinDots_splitDots]

theorem joinDots_append {front : List String} (nonempty : front ≠ []) (rest : List String) :
    joinDots (front ++ rest) = joinDots (joinDots front :: rest) := by
  induction front with
  | nil => exact absurd rfl nonempty
  | cons segment others ih =>
      cases others with
      | nil => rfl
      | cons next more =>
          have inner := ih (List.cons_ne_nil next more)
          calc joinDots (segment :: (next :: more ++ rest))
              = segment ++ "." ++ joinDots (next :: more ++ rest) := rfl
            _ = segment ++ "." ++ joinDots (joinDots (next :: more) :: rest) := by rw [inner]
            _ = joinDots ((segment ++ "." ++ joinDots (next :: more)) :: rest) :=
                (joinDots_append_cons _ _ _).symm

theorem dotless_of_mem_splitDots {chars segment : List Char}
    (member : segment ∈ splitDots chars) : '.' ∉ segment := by
  induction chars generalizing segment with
  | nil =>
      rw [splitDots, List.mem_singleton] at member
      simp [member]
  | cons c rest ih =>
      cases split : splitDots rest with
      | nil => exact absurd split (splitDots_ne_nil rest)
      | cons first others =>
          rw [split] at ih
          rw [splitDots, split] at member
          by_cases dot : c = '.'
          · rw [if_pos dot] at member
            rcases List.mem_cons.mp member with empty | later
            · simp [empty]
            · exact ih later
          · rw [if_neg dot] at member
            rcases List.mem_cons.mp member with extended | later
            · have clean := ih List.mem_cons_self
              simp [extended, clean, Ne.symm dot]
            · exact ih (List.mem_cons_of_mem first later)

theorem splitDots_of_dotless {chars : List Char} (dotless : '.' ∉ chars) :
    splitDots chars = [chars] := by
  induction chars with
  | nil => rfl
  | cons c rest ih =>
      rw [List.mem_cons, not_or] at dotless
      rw [splitDots, if_neg (Ne.symm dotless.1), ih dotless.2]

theorem splitDots_append_dot {chars : List Char} (dotless : '.' ∉ chars) (rest : List Char) :
    splitDots (chars ++ '.' :: rest) = chars :: splitDots rest := by
  induction chars with
  | nil => rfl
  | cons c more ih =>
      rw [List.mem_cons, not_or] at dotless
      rw [List.cons_append, splitDots, if_neg (Ne.symm dotless.1), ih dotless.2]

theorem segments_joinDots {parts : List String} (nonempty : parts ≠ [])
    (dotless : ∀ part ∈ parts, '.' ∉ part.toList) : segments (joinDots parts) = parts := by
  induction parts with
  | nil => exact absurd rfl nonempty
  | cons part rest ih =>
      rw [List.forall_mem_cons] at dotless
      cases rest with
      | nil => simp [joinDots, segments, splitDots_of_dotless dotless.1]
      | cons next others =>
          have later := ih (List.cons_ne_nil next others) dotless.2
          rw [segments] at later ⊢
          simp [joinDots, splitDots_append_dot dotless.1, later]

/-- A text split at its dots: there is a part at least, no part has a dot in it, and dots between
the parts give the text. -/
structure Splits (text : String) (parts : List String) : Prop where
  nonempty : parts ≠ []
  dotless : ∀ part ∈ parts, '.' ∉ part.toList
  joined : joinDots parts = text

/-- There is one way to split a text. -/
theorem splits_iff {text : String} {parts : List String} :
    Splits text parts ↔ parts = segments text := by
  constructor
  · intro splits
    rw [← splits.joined, segments_joinDots splits.nonempty splits.dotless]
  · intro same
    rw [same]
    refine ⟨segments_ne_nil text, ?_, joinDots_segments text⟩
    intro part member
    obtain ⟨segment, among, shown⟩ := List.mem_map.mp member
    rw [← shown, String.toList_ofList]
    exact dotless_of_mem_splitDots among

end SwarmCheck.Text
