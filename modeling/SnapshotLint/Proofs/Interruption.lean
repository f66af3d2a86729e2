/-
  What an interruption can do to an analysis. A walk that is interrupted finds nothing; an analysis
  takes an interrupted question for a no and goes on, so its result may be wrong.

  * `run_quiet`: under the token that nobody cancels, an analysis computes its `answer`.
  * `run_eq_answer`: a wrong result is betrayed by the token, which is cancelled afterwards.
  * `SoundUnless P x`: whenever `x` gives a result it is the `answer`, or else it has the property
    `P`. `Yields P x`: every result of `x` has the property `P`. Both are passed on by `bind`.
  * `Stops x`: under a cancelled token `x` gives no result. So what comes before it is right if it
    gives one (`bind_soundUnless_of_stops`).
  * `Keeps a x`: `x` has no result but `a` if that is its `answer`, as it is with a no
    (`keeps_query`).
  * `AllOrNothing s x`: `x` gives its `answer` or nothing, and nothing only if it is cancelled.
-/
import SnapshotLint.Derivation

namespace SnapshotLint

variable {α β γ : Type} {s : Snapshot} {t : Token}

namespace Walk

theorem run_quiet (w : Walk α) : w.run s {} = (some (w.answer s), {}) := by
  induction w with
  | done a => rfl
  | poll next ih => exact ih ()
  | lookup name next ih => exact ih _

/-- A walk never takes a cancellation back. -/
theorem cancelled_run (w : Walk α) (h : t.cancelled = true) : (w.run s t).2.cancelled = true := by
  induction w generalizing t with
  | done a => exact h
  | poll next ih =>
    simp only [run, Token.cancelled_poll h, if_true]
  | lookup name next ih => exact ih _ (Token.cancelled_lookup h)

/-- A walk that finds something finds what is there. -/
theorem eq_answer {w : Walk α} {a : α} (h : (w.run s t).1 = some a) : a = w.answer s := by
  induction w generalizing t with
  | done b => cases h; rfl
  | poll next ih =>
    simp only [run] at h
    split at h
    · cases h
    · exact ih () h
  | lookup name next ih => exact ih _ h

theorem run_eq_answer {w : Walk α} (h : (w.run s t).2.cancelled = false) :
    (w.run s t).1 = some (w.answer s) := by
  induction w generalizing t with
  | done a => rfl
  | poll next ih =>
    simp only [run] at h ⊢
    split at h
    · next hc => rw [hc] at h; cases h
    · next hc => rw [if_neg hc]; exact ih () h
  | lookup name next ih => exact ih _ h

end Walk

namespace Analysis

instance : LawfulMonad Analysis :=
  LawfulMonad.mk' Analysis
    (fun x => by
      induction x with
      | done a => rfl
      | poll next ih => exact congrArg poll (funext ih)
      | lookup name next ih => exact congrArg (lookup name) (funext ih)
      | ask question next ih => exact congrArg (ask question) (funext ih))
    (fun _ _ => rfl)
    (fun x _ _ => by
      induction x with
      | done a => rfl
      | poll next ih => exact congrArg poll (funext ih)
      | lookup name next ih => exact congrArg (lookup name) (funext ih)
      | ask question next ih => exact congrArg (ask question) (funext ih))

/-! ## Results and tokens -/

theorem run_quiet (x : Analysis α) : x.run s {} = (some (x.answer s), {}) := by
  induction x with
  | done a => rfl
  | poll next ih => exact ih ()
  | lookup name next ih => exact ih _
  | ask question next ih =>
    rw [run, question.run_quiet]
    exact ih _

/-- An analysis never takes a cancellation back. -/
theorem cancelled_run (x : Analysis α) (h : t.cancelled = true) :
    (x.run s t).2.cancelled = true := by
  induction x generalizing t with
  | done a => exact h
  | poll next ih =>
    simp only [run, Token.cancelled_poll h, if_true]
  | lookup name next ih => exact ih _ (Token.cancelled_lookup h)
  | ask question next ih => exact ih _ (question.cancelled_run h)

/-- **A result that is not the answer leaves a cancelled token behind.** -/
theorem run_eq_answer {x : Analysis α} (h : (x.run s t).2.cancelled = false) :
    (x.run s t).1 = some (x.answer s) := by
  induction x generalizing t with
  | done a => rfl
  | poll next ih =>
    simp only [run] at h ⊢
    split at h
    · next hc => rw [hc] at h; cases h
    · next hc => rw [if_neg hc]; exact ih () h
  | lookup name next ih => exact ih _ h
  | ask question next ih =>
    simp only [run] at h ⊢
    -- the question was not interrupted, or the token would still be cancelled
    have hq : (question.run s t).2.cancelled = false := by
      rw [Bool.eq_false_iff]
      intro hc
      rw [cancelled_run _ hc] at h
      cases h
    rw [Walk.run_eq_answer hq] at h ⊢
    exact ih _ h

/-- What a composed analysis gives is what its second part gives on a result of the first. That result
    is right, or the token has been cancelled in between. -/
theorem run_bind_eq_some {x : Analysis α} {f : α → Analysis β} {b : β}
    (h : ((x >>= f).run s t).1 = some b) :
    ∃ a t', x.run s t = (some a, t') ∧ (a = x.answer s ∨ t'.cancelled = true) ∧
      ((f a).run s t').1 = some b := by
  rw [run_bind] at h
  rcases hx : x.run s t with ⟨_ | a, t'⟩
  · rw [hx] at h; cases h
  · rw [hx] at h
    refine ⟨a, t', rfl, ?_, h⟩
    cases hc : t'.cancelled with
    | true => exact Or.inr rfl
    | false =>
      have hanswer : (x.run s t).1 = some (x.answer s) := run_eq_answer (by rw [hx]; exact hc)
      rw [hx, Option.some.injEq] at hanswer
      exact Or.inl hanswer

/-! ## Answers of composed analyses -/

@[simp] theorem answer_pure (a : α) : (pure a : Analysis α).answer s = a := rfl

@[simp] theorem answer_pollToken : pollToken.answer s = () := rfl

@[simp] theorem answer_find? (name : String) : (find? name).answer s = s.find? name := rfl

@[simp] theorem answer_query (question : Walk Bool) :
    (query question).answer s = question.answer s := rfl

attribute [simp] answer_bind

@[simp] theorem answer_map (f : α → β) (x : Analysis α) : (f <$> x).answer s = f (x.answer s) :=
  answer_bind s x _

@[simp] theorem answer_foldlM (f : β → α → Analysis β) (b : β) (xs : List α) :
    (xs.foldlM f b).answer s = xs.foldl (fun b a => (f b a).answer s) b := by
  induction xs generalizing b with
  | nil => rfl
  | cons a xs ih => rw [List.foldlM_cons, answer_bind, ih, List.foldl_cons]

/-- A fold that puts together what each element gives. -/
theorem answer_foldlM_append {f : List β → α → Analysis (List β)} {select : α → List β}
    (h : ∀ bs a, (f bs a).answer s = bs ++ select a) (xs : List α) (bs : List β) :
    (xs.foldlM f bs).answer s = bs ++ xs.flatMap select := by
  induction xs generalizing bs with
  | nil => exact (List.append_nil bs).symm
  | cons a xs ih =>
    rw [List.foldlM_cons, answer_bind, ih, h, List.flatMap_cons, List.append_assoc]

@[simp] theorem answer_mapM (f : α → Analysis β) (xs : List α) :
    (xs.mapM f).answer s = xs.map fun x => (f x).answer s := by
  induction xs with
  | nil => rfl
  | cons x xs ih =>
    rw [List.mapM_cons, answer_bind, answer_bind, ih, answer_pure, List.map_cons]

theorem answer_anyM (p : α → Analysis Bool) (xs : List α) :
    (xs.anyM p).answer s = xs.any fun x => (p x).answer s := by
  induction xs with
  | nil => rfl
  | cons x xs ih =>
    rw [List.anyM, answer_bind, List.any_cons]
    cases (p x).answer s with
    | true => rfl
    | false => exact ih

@[simp] theorem answer_ofWalk (w : Walk α) : (ofWalk w).answer s = w.answer s := by
  induction w with
  | done a => rfl
  | poll next ih => exact ih ()
  | lookup name next ih => exact ih _

theorem run_ofWalk (w : Walk α) : (ofWalk w).run s t = w.run s t := by
  induction w generalizing t with
  | done a => rfl
  | poll next ih =>
    simp only [ofWalk, run, Walk.run, ih]
  | lookup name next ih => exact ih _

/-! ## Results that can be relied on -/

/-- Whatever the token does, a result of the analysis is its answer or has the property. -/
def SoundUnless (P : α → Prop) (x : Analysis α) : Prop :=
  ∀ s t a, (x.run s t).1 = some a → a = x.answer s ∨ P a

/-- Whatever the token does, a result of the analysis is its answer. -/
def Sound (x : Analysis α) : Prop := x.SoundUnless fun _ => False

/-- Whatever the token does, the analysis has no other result if its answer is `a`. -/
def Keeps (a : α) (x : Analysis α) : Prop :=
  ∀ s t b, x.answer s = a → (x.run s t).1 = some b → b = a

/-- Whatever the token does, a result of the analysis has the property. -/
def Yields (P : α → Prop) (x : Analysis α) : Prop := ∀ s t a, (x.run s t).1 = some a → P a

/-- A result that the analysis gives under a cancelled token has the property. -/
def YieldsLate (P : α → Prop) (x : Analysis α) : Prop :=
  ∀ s t a, t.cancelled = true → (x.run s t).1 = some a → P a

/-- Under a cancelled token the analysis gives no result. -/
def Stops (x : Analysis α) : Prop := x.YieldsLate fun _ => False

section
variable {P : α → Prop} {Q : β → Prop} {x : Analysis α} {f : α → Analysis β}

theorem yields_pure {a : α} (h : P a) : (pure a : Analysis α).Yields P := by
  rintro s t b ⟨⟩
  exact h

theorem Yields.bind (hx : x.Yields P) (hf : ∀ a, P a → (f a).Yields Q) : (x >>= f).Yields Q := by
  intro s t b h
  obtain ⟨a, t', ha, -, hb⟩ := run_bind_eq_some h
  exact hf a (hx s t a (by rw [ha])) s t' b hb

theorem yields_bind (hf : ∀ a, (f a).Yields Q) : (x >>= f).Yields Q :=
  Yields.bind (P := fun _ => True) (fun _ _ _ _ => trivial) fun a _ => hf a

theorem Yields.late (h : x.Yields P) : x.YieldsLate P := fun s t a _ ha => h s t a ha

theorem Yields.soundUnless (h : x.Yields P) : x.SoundUnless P :=
  fun s t a ha => Or.inr (h s t a ha)

theorem Sound.soundUnless (h : x.Sound) : x.SoundUnless P :=
  fun s t a ha => (h s t a ha).imp_right False.elim

theorem Sound.eq_answer (h : x.Sound) {a : α} (ha : (x.run s t).1 = some a) : a = x.answer s :=
  (h s t a ha).resolve_right id

theorem soundUnless_true (x : Analysis α) : x.SoundUnless fun _ => True :=
  fun _ _ _ _ => Or.inr trivial

/-! ### Under a cancelled token -/

theorem YieldsLate.bind (hx : x.YieldsLate P) (hf : ∀ a, P a → (f a).YieldsLate Q) :
    (x >>= f).YieldsLate Q := by
  intro s t b hc h
  obtain ⟨a, t', ha, -, hb⟩ := run_bind_eq_some h
  have hc' : t'.cancelled = true := by
    have hrun := x.cancelled_run (s := s) hc
    rwa [ha] at hrun
  exact hf a (hx s t a hc (by rw [ha])) s t' b hc' hb

theorem Stops.late (h : x.Stops) : x.YieldsLate P := fun s t a hc ha => (h s t a hc ha).elim

theorem Stops.bind (hx : x.Stops) (f : α → Analysis β) : (x >>= f).Stops :=
  YieldsLate.bind hx fun _ h => h.elim

theorem stops_pollToken : pollToken.Stops := by
  intro s t a hc h
  simp only [pollToken, run, Token.cancelled_poll hc, if_true] at h
  cases h

theorem stops_foldlM {g : β → α → Analysis β} {xs : List α} {b : β} (hxs : xs ≠ [])
    (hg : ∀ b a, (g b a).Stops) : (xs.foldlM g b).Stops := by
  obtain ⟨a, rest, rfl⟩ := List.exists_cons_of_ne_nil hxs
  rw [List.foldlM_cons]
  exact (hg b a).bind _

theorem stops_mapM {g : α → Analysis β} {xs : List α} (hxs : xs ≠ []) (hg : ∀ a, (g a).Stops) :
    (xs.mapM g).Stops := by
  obtain ⟨a, rest, rfl⟩ := List.exists_cons_of_ne_nil hxs
  rw [List.mapM_cons]
  exact (hg a).bind _

/-! ### Parts of an analysis -/

theorem sound_pure (a : α) : (pure a : Analysis α).Sound := by
  rintro s t b ⟨⟩
  exact Or.inl rfl

theorem sound_find? (name : String) : (find? name).Sound := by
  rintro s t b ⟨⟩
  exact Or.inl rfl

theorem sound_pollToken : pollToken.Sound := fun _ _ _ _ => Or.inl rfl

theorem sound_ofWalk (w : Walk α) : (ofWalk w).Sound := by
  intro s t a h
  rw [run_ofWalk] at h
  rw [answer_ofWalk]
  exact Or.inl (Walk.eq_answer h)

/-- A first part that may be wrong leaves a cancelled token behind if it is, so it does no harm if
    the second part stops then, or shows it. -/
theorem SoundUnless.bind (hx : x.SoundUnless P) (hf : ∀ a, (f a).SoundUnless Q)
    (hP : ∀ a, P a → (f a).YieldsLate Q) : (x >>= f).SoundUnless Q := by
  intro s t b h
  obtain ⟨a, t', ha, hright, hb⟩ := run_bind_eq_some h
  rw [answer_bind]
  rcases hright with rfl | hc
  · exact hf _ s t' b hb
  · rcases hx s t a (by rw [ha]) with rfl | hPa
    · exact hf _ s t' b hb
    · exact Or.inr (hP a hPa s t' b hc hb)

theorem Sound.bind (hx : x.Sound) (hf : ∀ a, (f a).SoundUnless Q) : (x >>= f).SoundUnless Q :=
  SoundUnless.bind hx hf fun _ h => h.elim

/-- The second part need only be right after what the first part can give. -/
theorem Sound.bind_of_yields (hx : x.Sound) (hP : x.Yields P)
    (hf : ∀ a, P a → (f a).SoundUnless Q) : (x >>= f).SoundUnless Q := by
  intro s t b h
  obtain ⟨a, t', ha, -, hb⟩ := run_bind_eq_some h
  have hPa : P a := hP s t a (by rw [ha])
  have hanswer : a = x.answer s := hx.eq_answer (by rw [ha])
  rw [answer_bind, ← hanswer]
  exact hf a hPa s t' b hb

/-- Whatever comes first, it is right once a second part that stops has given a result. -/
theorem bind_soundUnless_of_stops (hf : ∀ a, (f a).SoundUnless Q) (hstops : ∀ a, (f a).Stops) :
    (x >>= f).SoundUnless Q :=
  (soundUnless_true x).bind hf fun a _ => (hstops a).late

theorem sound_foldlM {g : β → α → Analysis β} {xs : List α} {b : β}
    (hg : ∀ b a, (g b a).Sound) : (xs.foldlM g b).Sound := by
  induction xs generalizing b with
  | nil => exact sound_pure b
  | cons a xs ih =>
    rw [List.foldlM_cons]
    exact (hg b a).bind fun b => ih

theorem sound_mapM {g : α → Analysis β} {xs : List α} (hg : ∀ a, (g a).Sound) :
    (xs.mapM g).Sound := by
  induction xs with
  | nil => exact sound_pure _
  | cons a xs ih =>
    rw [List.mapM_cons]
    exact (hg a).bind fun _ => Sound.bind ih fun _ => sound_pure _

end

theorem mapM_soundUnless (g : α → Analysis β) (xs : List α) :
    (xs.mapM g).SoundUnless fun ys => ys ≠ [] := by
  cases xs with
  | nil => exact (sound_pure _).soundUnless
  | cons a xs =>
    rw [List.mapM_cons]
    exact Yields.soundUnless <| yields_bind fun _ => yields_bind fun _ =>
      yields_pure (List.cons_ne_nil _ _)

/-- Where each element is preceded by a poll, only what the last one gives can be wrong. -/
theorem mapM_interrupted {g : α → Analysis β} (hg : ∀ a, (g a).Stops) {front : List α} {a : α}
    {bs : List β} (h : (((front ++ [a]).mapM g).run s t).1 = some bs) :
    ∃ b t', ((g a).run s t').1 = some b ∧ bs = (front.map fun a => (g a).answer s) ++ [b] := by
  have hsplit : (front ++ [a]).mapM g = front.mapM g >>= fun bs => g a >>= fun b =>
      pure (bs ++ [b]) := by
    simp only [List.mapM_append, List.mapM_cons, List.mapM_nil, pure_bind, bind_assoc]
  rw [hsplit] at h
  obtain ⟨before, t', -, hright, h⟩ := run_bind_eq_some h
  obtain ⟨b, t'', hb, -, h⟩ := run_bind_eq_some h
  rcases hright with rfl | hcancelled
  · cases h
    rw [answer_mapM]
    exact ⟨b, t', by rw [hb], rfl⟩
  · exact (hg a s t' b hcancelled (by rw [hb])).elim

/-! ## Answers that stay

An interrupted question is answered with no, so that a no stays what it is. -/

section
variable {x : Analysis α} {f : α → Analysis β} {a : α} {b : β}

theorem keeps_pure (a b : α) : (pure b : Analysis α).Keeps a := by
  rintro s t c rfl ⟨⟩
  rfl

theorem keeps_query (question : Walk Bool) : (query question).Keeps false := by
  intro s t b hanswer h
  rw [answer_query] at hanswer
  cases hrun : (question.run s t).1 with
  | none =>
    simp only [query, run, hrun, Option.getD_none] at h
    cases h
    rfl
  | some r =>
    simp only [query, run, hrun, Option.getD_some] at h
    cases h
    exact (Walk.eq_answer hrun).trans hanswer

/-- It is enough that `b` can only come from `a`. -/
theorem Keeps.bind (hx : x.Keeps a) (hf : (f a).Keeps b)
    (hne : ∀ a', a' ≠ a → ∀ s, (f a').answer s ≠ b) : (x >>= f).Keeps b := by
  intro s t c hanswer h
  obtain ⟨a', t', ha', -, hc⟩ := run_bind_eq_some h
  rw [answer_bind] at hanswer
  have hx' : x.answer s = a := Classical.byContradiction fun hother => hne _ hother s hanswer
  rw [hx'] at hanswer
  rw [hx s t a' hx' (by rw [ha'])] at hc
  exact hf s t' c hanswer hc

theorem keeps_anyM {g : α → Analysis Bool} (hg : ∀ a, (g a).Keeps false) (xs : List α) :
    (xs.anyM g).Keeps false := by
  induction xs with
  | nil => exact keeps_pure _ _
  | cons a xs ih =>
    refine (hg a).bind ih fun r hr s => ?_
    cases r with
    | true => simp
    | false => exact absurd rfl hr

end

/-! ## All or nothing -/

/-- Whatever the token does, the analysis gives the result that it has when nobody cancels, or the
    token has been cancelled, and a result that the analysis gives is related to that one. -/
def UpTo (R : α → α → Prop) (s : Snapshot) (x : Analysis α) : Prop :=
  ∀ t, (x.run s t).1 = (x.run s {}).1 ∨
    (x.run s t).2.cancelled = true ∧ ∀ a b, (x.run s {}).1 = some a → (x.run s t).1 = some b → R a b

/-- Whatever the token does, the analysis gives the result that it has when nobody cancels, or it
    gives none, and then the token has been cancelled. -/
def AllOrNothing (s : Snapshot) (x : Analysis α) : Prop :=
  ∀ t, (x.run s t).1 = (x.run s {}).1 ∨ (x.run s t).2.cancelled = true ∧ (x.run s t).1 = none

theorem upTo_of_forall {R : α → α → Prop} {x : Analysis α}
    (h : ∀ t b, (x.run s t).1 = some b → b = x.answer s ∨ R (x.answer s) b) : x.UpTo R s := by
  intro t
  rw [run_quiet]
  cases hc : (x.run s t).2.cancelled with
  | false => exact Or.inl (run_eq_answer hc)
  | true =>
    cases hrun : (x.run s t).1 with
    | none => exact Or.inr ⟨rfl, fun a b _ hb => by cases hb⟩
    | some b =>
      rcases h t b hrun with rfl | hR
      · exact Or.inl rfl
      · refine Or.inr ⟨rfl, ?_⟩
        rintro a b ⟨⟩ ⟨⟩
        exact hR

theorem Sound.allOrNothing {x : Analysis α} (hx : x.Sound) (s : Snapshot) : x.AllOrNothing s := by
  intro t
  have hR := @upTo_of_forall _ s (fun _ _ => False) x (fun t b hb => hx s t b hb) t
  refine hR.imp_right fun ⟨hc, hnone⟩ => ⟨hc, ?_⟩
  rw [run_quiet] at hnone
  cases hrun : (x.run s t).1 with
  | none => rfl
  | some b => exact (hnone _ b rfl hrun).elim

end Analysis

end SnapshotLint
