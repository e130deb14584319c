import SealedSync.Text.Split

/-!
# Texts in pieces

A text is cut at the first character that satisfies a test, or nowhere. Pieces between separators can
be found one after another: those of a text that goes on behind a separator are those before it and
those behind it.
-/
namespace SealedSync.Split

variable {stop isSeparator : Char → Bool} {text : List Char}

theorem before_continued (front : List Char) {c : Char} (stops : stop c = true)
    (rest : List Char) :
    before stop (front ++ c :: rest) =
      (front.takeWhile fun d => !stop d, (front.dropWhile fun d => !stop d) ++ c :: rest) := by
  induction front with
  | nil => simp [before, stops]
  | cons d front ih =>
      simp only [before, Prod.mk.injEq] at ih ⊢
      cases stopsHere : stop d with
      | true => simp [stopsHere]
      | false => simp [stopsHere, ih.1, ih.2]

theorem before_free (unstopped : ∀ c ∈ text, stop c = false) : before stop text = (text, []) := by
  induction text with
  | nil => rfl
  | cons c text ih =>
      have whole := ih fun d member => unstopped d (List.mem_cons_of_mem c member)
      simp only [before, Prod.mk.injEq] at whole ⊢
      simp [unstopped c List.mem_cons_self, whole.1, whole.2]

theorem before_cut {front : List Char} (unstopped : ∀ c ∈ front, stop c = false) {c : Char}
    (stops : stop c = true) (rest : List Char) :
    before stop (front ++ c :: rest) = (front, c :: rest) := by
  have whole := before_free unstopped
  rw [before_continued front stops]
  simp only [before, Prod.mk.injEq] at whole
  rw [whole.1, whole.2, List.nil_append]

/-- A text is cut at the first character that stops it, or not at all. -/
theorem before_cases (stop : Char → Bool) (text : List Char) :
    (∀ c ∈ text, stop c = false) ∨ ∃ front c rest, text = front ++ c :: rest ∧ stop c = true ∧
      ∀ d ∈ front, stop d = false := by
  induction text with
  | nil => exact .inl fun c member => absurd member List.not_mem_nil
  | cons c text ih =>
      cases stops : stop c with
      | true => exact .inr ⟨[], c, text, rfl, stops, fun d member => absurd member List.not_mem_nil⟩
      | false =>
          rcases ih with unstopped | ⟨front, d, rest, rfl, stopped, unstopped⟩
          · exact .inl fun d member => (List.mem_cons.mp member).elim (· ▸ stops) (unstopped d)
          · exact .inr ⟨c :: front, d, rest, rfl, stopped,
              fun e member => (List.mem_cons.mp member).elim (· ▸ stops) (unstopped e)⟩

theorem pieces_prepend (free : ∀ c ∈ text, isSeparator c = false) {rest head : List Char}
    {tail : List (List Char)} (cut : pieces isSeparator rest = head :: tail) :
    pieces isSeparator (text ++ rest) = (text ++ head) :: tail := by
  induction text with
  | nil => exact cut
  | cons c text ih =>
      rw [List.cons_append, pieces, ih fun d member => free d (List.mem_cons_of_mem c member)]
      simp [free c List.mem_cons_self]

theorem pieces_free (free : ∀ c ∈ text, isSeparator c = false) :
    pieces isSeparator text = [text] := by
  have whole : pieces isSeparator (text ++ []) = (text ++ []) :: [] := pieces_prepend free rfl
  rwa [List.append_nil] at whole

theorem pieces_eq_cons (isSeparator : Char → Bool) (text : List Char) :
    ∃ head tail, pieces isSeparator text = head :: tail := by
  cases text with
  | nil => exact ⟨[], [], rfl⟩
  | cons d text =>
      rw [pieces]
      split
      · split
        · exact ⟨_, _, rfl⟩
        · exact ⟨_, _, rfl⟩
      · exact ⟨_, _, rfl⟩

theorem pieces_separated {piece : List Char}
    (member : piece ∈ pieces isSeparator text) : ∀ c ∈ piece, isSeparator c = false := by
  induction text generalizing piece with
  | nil =>
      rw [List.mem_singleton.mp member]
      exact fun c inside => absurd inside List.not_mem_nil
  | cons d text ih =>
      obtain ⟨head, tail, cut⟩ := pieces_eq_cons isSeparator text
      rw [cut] at ih
      simp only [pieces, cut] at member
      split at member
      · rcases List.mem_cons.mp member with rfl | member
        · exact fun c inside => absurd inside List.not_mem_nil
        · exact ih member
      · rename_i apart
        rcases List.mem_cons.mp member with rfl | member
        · intro c inside
          rcases List.mem_cons.mp inside with rfl | inside
          · exact Bool.eq_false_iff.mpr apart
          · exact ih List.mem_cons_self c inside
        · exact ih (List.mem_cons_of_mem head member)

theorem pieces_cut (front : List Char) {c : Char} (separates : isSeparator c = true)
    (rest : List Char) :
    pieces isSeparator (front ++ c :: rest) =
      pieces isSeparator front ++ pieces isSeparator rest := by
  induction front with
  | nil =>
      obtain ⟨head, tail, cut⟩ := pieces_eq_cons isSeparator rest
      simp [pieces, cut, separates]
  | cons d front ih =>
      obtain ⟨head, tail, cut⟩ := pieces_eq_cons isSeparator front
      rw [List.cons_append, pieces, ih, pieces, cut]
      simp only [List.cons_append]
      split <;> rfl

/-- Segments that follow a text are its last pieces. -/
theorem pieces_segments (slash : isSeparator '/' = true) {segments : List (List Char)}
    (free : ∀ s ∈ segments, ∀ c ∈ s, isSeparator c = false) (front : List Char) :
    pieces isSeparator (front ++ segments.flatMap fun s => '/' :: s) =
      pieces isSeparator front ++ segments := by
  induction segments generalizing front with
  | nil => simp
  | cons s segments ih =>
      rw [List.flatMap_cons, List.cons_append, pieces_cut front slash,
        ih (fun t member => free t (List.mem_cons_of_mem s member)) s,
        pieces_free (free s List.mem_cons_self), List.singleton_append]

/-- Of two texts with a mark the parts are the same if the mark does not come again. -/
theorem append_mark_inj {mark : Char} {front other back rest : List Char}
    (last : mark ∉ back) (only : mark ∉ rest) :
    front ++ mark :: back = other ++ mark :: rest ↔ front = other ∧ back = rest := by
  have ends {more back rest : List Char} (last : mark ∉ back)
      (same : mark :: back = more ++ mark :: rest) : more = [] ∧ back = rest := by
    cases more with
    | nil => exact ⟨rfl, (List.cons.inj same).2⟩
    | cons c more =>
        have behind : back = more ++ mark :: rest := (List.cons.inj same).2
        exact absurd (behind ▸ List.mem_append_right more List.mem_cons_self) last
  constructor
  · intro same
    rcases List.append_eq_append_iff.mp same with ⟨more, rfl, split⟩ | ⟨more, rfl, split⟩
    · obtain ⟨rfl, rfl⟩ := ends last split
      exact ⟨(List.append_nil _).symm, rfl⟩
    · obtain ⟨rfl, rfl⟩ := ends only split
      exact ⟨List.append_nil _, rfl⟩
  · rintro ⟨rfl, rfl⟩
    rfl

end SealedSync.Split
