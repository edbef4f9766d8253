import AirStation.Proofs.Bus.History

/-!
Order in a record. `LastOf` names the last element of a kind, `Throughout` says something of every
element in view of those before it. A record grows at its end, so both come with what an append does
to them.

The contracts of the drivers are about order and time: which transfer was the latest before a
reading, and how long ago a cycle has begun. They are stated with these two notions over the
transactions or the calls of a history.
-/

namespace AirStation

variable {α : Type}

/-- The element is of the kind, and nothing after it is. A list has at most one such place, and the
element stands there. -/
def LastOf (kind : α → Prop) (l : List α) (x : α) : Prop :=
  ∃ earlier later, l = earlier ++ x :: later ∧ kind x ∧ ∀ y ∈ later, ¬ kind y

/-- Something holds of every element of the list, in view of the elements before it. -/
def Throughout (P : List α → α → Prop) (l : List α) : Prop :=
  ∀ before x after, l = before ++ x :: after → P before x

theorem lastOf_concat {kind : α → Prop} {x : α} (hx : kind x) (l : List α) :
    LastOf kind (l ++ [x]) x :=
  ⟨l, [], rfl, hx, fun _ h => nomatch h⟩

/-- The last of a kind remains the last when nothing of its kind is added. -/
theorem LastOf.append {kind : α → Prop} {l : List α} {x : α} (h : LastOf kind l x)
    {more : List α} (hmore : ∀ y ∈ more, ¬ kind y) : LastOf kind (l ++ more) x := by
  obtain ⟨earlier, later, rfl, hx, hlater⟩ := h
  refine ⟨earlier, later ++ more, by simp, hx, ?_⟩
  intro y hy
  rcases List.mem_append.mp hy with hy | hy
  · exact hlater y hy
  · exact hmore y hy

theorem not_lastOf_nil (kind : α → Prop) (x : α) : ¬ LastOf kind [] x := by
  rintro ⟨earlier, later, hsplit, -⟩
  simp at hsplit

/-- An element of the kind that is added at the end is the last one from then on. -/
theorem lastOf_concat_of_kind {kind : α → Prop} {x y : α} (hx : kind x) (l : List α) :
    LastOf kind (l ++ [x]) y ↔ y = x := by
  constructor
  · rintro ⟨earlier, later, hsplit, -, hlater⟩
    rcases List.eq_nil_or_concat later with rfl | ⟨init, last, rfl⟩
    · exact (List.singleton_inj.mp (List.append_inj_right' hsplit rfl)).symm
    · rw [List.concat_eq_append, ← List.cons_append, ← List.append_assoc] at hsplit
      obtain rfl := List.singleton_inj.mp (List.append_inj_right' hsplit rfl)
      exact absurd hx (hlater x (by simp))
  · rintro rfl
    exact lastOf_concat hx l

theorem lastOf_concat_of_not {kind : α → Prop} {x y : α} (hx : ¬ kind x) (l : List α) :
    LastOf kind (l ++ [x]) y ↔ LastOf kind l y := by
  constructor
  · rintro ⟨earlier, later, hsplit, hy, hlater⟩
    rcases List.eq_nil_or_concat later with rfl | ⟨init, last, rfl⟩
    · obtain rfl := List.singleton_inj.mp (List.append_inj_right' hsplit rfl)
      exact absurd hy hx
    · rw [List.concat_eq_append, ← List.cons_append, ← List.append_assoc] at hsplit
      refine ⟨earlier, init, List.append_inj_left' hsplit rfl, hy, ?_⟩
      intro z hz
      exact hlater z (by simp [hz])
  · intro h
    exact h.append (by simpa using hx)

/-- The last of a kind comes no earlier than an element of that kind, so if it is another one it
comes later. -/
theorem LastOf.mem_after {kind : α → Prop} {l more : List α} {x y : α}
    (h : LastOf kind (l ++ x :: more) y) (hx : kind x) (hne : y ≠ x) : y ∈ more := by
  obtain ⟨earlier, later, hsplit, -, hlater⟩ := h
  rcases List.append_eq_append_iff.mp hsplit with ⟨between, -, hrest⟩ | ⟨between, -, hrest⟩
  · cases between with
    | nil => exact absurd (List.cons.inj hrest).1.symm hne
    | cons first between =>
      rw [(List.cons.inj hrest).2]
      simp
  · cases between with
    | nil => exact absurd (List.cons.inj hrest).1 hne
    | cons first between =>
      have hmem : x ∈ later := by
        rw [(List.cons.inj hrest).2]
        simp
      exact absurd hx (hlater x hmem)

theorem throughout_nil (P : List α → α → Prop) : Throughout P [] := by
  intro before x after h
  simp at h

theorem throughout_cons (P : List α → α → Prop) (x : α) (l : List α) :
    Throughout P (x :: l) ↔ P [] x ∧ Throughout (fun before => P (x :: before)) l := by
  constructor
  · intro h
    refine ⟨h [] x l rfl, ?_⟩
    rintro before y after rfl
    exact h (x :: before) y after rfl
  · rintro ⟨hx, hl⟩ before y after hsplit
    cases before with
    | nil =>
      obtain ⟨rfl, -⟩ := List.cons.inj hsplit
      exact hx
    | cons first before =>
      obtain ⟨rfl, hrest⟩ := List.cons.inj hsplit
      exact hl before y after hrest

/-- What is added to a record is looked at in view of all that was there before. -/
theorem throughout_append (P : List α → α → Prop) (l more : List α) :
    Throughout P (l ++ more) ↔
      Throughout P l ∧ Throughout (fun before => P (l ++ before)) more := by
  induction l generalizing P with
  | nil => simp [throughout_nil]
  | cons x l ih => simp only [List.cons_append, throughout_cons, ih, and_assoc]

theorem throughout_of_forall {P : List α → α → Prop} {l : List α}
    (h : ∀ x ∈ l, ∀ before, P before x) : Throughout P l := by
  rintro before x after rfl
  exact h x (by simp) before

end AirStation
