import StoryWorld.Conversion

/-!
# What a conversion refuses and what it passes over

A conversion stops at the first offence that it comes to. If there is none it gives a result, with a
notice for each entry that it does not understand. That much is known of a conversion from its parts
(`Checked.Settles.bind`), and of a fold from its steps (`Checked.Settles.foldlM`).
-/

namespace StoryWorld

variable {α β σ : Type}

theorem findSome?_cons_eq_or (f : α → Option β) (a : α) (as : List α) :
    (a :: as).findSome? f = (f a).or (as.findSome? f) := by
  rw [List.findSome?_cons]
  cases f a with
  | none | some => rfl

theorem findSome?_flatMap (f : β → Option σ) (g : α → List β) (as : List α) :
    (as.flatMap g).findSome? f = as.findSome? fun a => (g a).findSome? f := by
  induction as with
  | nil => rfl
  | cons a as ih => rw [List.flatMap_cons, List.findSome?_append, ih, findSome?_cons_eq_or]

theorem findSome?_filterMap (f : β → Option σ) (g : α → Option β) (as : List α) :
    (as.filterMap g).findSome? f = as.findSome? fun a => (g a).bind f := by
  induction as with
  | nil => rfl
  | cons a as ih =>
    cases hg : g a with
    | none => rw [List.filterMap_cons_none hg, ih, findSome?_cons_eq_or, hg]; rfl
    | some b =>
      rw [List.filterMap_cons_some hg, findSome?_cons_eq_or, ih, findSome?_cons_eq_or, hg]; rfl

/-- The container that a member is, if it is one. -/
def Member.container? : Member → Option Container
  | container name members span nameSpan => some ⟨name, members, span, nameSpan⟩
  | _ => none

/-- Whether a notice is of a declaration that repeats an earlier one. Any other notice that a
conversion gives is of an entry that it does not understand. -/
def Notice.isRepetition (n : Notice) : Bool :=
  match n.oddity with
  | .world _ => true
  | _ => false

namespace Checked

/-- The notices of entries that are not understood. -/
def strays (x : Checked α) : List Notice := x.notices.filter (!·.isRepetition)

/-- A conversion that is refused for the first offence, if there is one, and otherwise gives
something with `P` and the notices `strays` of what is not understood. -/
structure Settles (x : Checked α) (offence? : Option ConvertError) (strays : List Notice)
    (P : α → Prop) : Prop where
  refused : ∀ e, offence? = some e → x.result = .error e
  accepted : offence? = none → x.strays = strays ∧ ∃ a, x.result = .ok a ∧ P a

namespace Settles

variable {x : Checked α} {offence? offence?' : Option ConvertError} {strays strays' : List Notice}
  {P : α → Prop} {Q : β → Prop}

theorem pure {a : α} (h : P a) : Settles (Pure.pure a) none [] P where
  refused := fun _ he => nomatch he
  accepted := fun _ => ⟨rfl, a, rfl, h⟩

theorem note {ns : List Notice} (h : ∀ n ∈ ns, n.isRepetition = false) :
    Settles (note ns) none ns fun _ => True where
  refused := fun _ he => nomatch he
  accepted := fun _ => by
    refine ⟨List.filter_eq_self.2 fun n hn => ?_, (), rfl, trivial⟩
    rw [h n hn]
    rfl

/-- What a world warns of is a repetition. -/
theorem note_ofWarning? (span : Span) (w : Option WorldWarning) :
    Settles (Checked.note (Notice.ofWarning? span w)) none [] fun _ => True where
  refused := fun _ he => nomatch he
  accepted := fun _ => by
    cases w with
    | none | some => exact ⟨rfl, (), rfl, trivial⟩

theorem refuse (e : ConvertError) : Settles (refuse e) (some e) strays P where
  refused := fun _ he => Option.some.inj he ▸ rfl
  accepted := fun h => nomatch h

theorem mono {P' : α → Prop} (hx : Settles x offence? strays P) (h : ∀ a, P a → P' a) :
    Settles x offence? strays P' where
  refused := hx.refused
  accepted := fun hnone => by
    obtain ⟨hstrays, a, hresult, ha⟩ := hx.accepted hnone
    exact ⟨hstrays, a, hresult, h a ha⟩

theorem bind {f : α → Checked β} (hx : Settles x offence? strays P)
    (hf : ∀ a, P a → Settles (f a) offence?' strays' Q) :
    Settles (x >>= f) (offence?.or offence?') (strays ++ strays') Q := by
  obtain ⟨ns, result⟩ := x
  cases offence? with
  | some e =>
    obtain rfl := hx.refused e rfl
    exact ⟨fun e' he' => Option.some.inj he' ▸ rfl, fun h => nomatch h⟩
  | none =>
    obtain ⟨hstrays, a, rfl, ha⟩ := hx.accepted rfl
    refine ⟨(hf a ha).refused, fun h => ?_⟩
    obtain ⟨hstrays', hresult⟩ := (hf a ha).accepted h
    refine ⟨?_, hresult⟩
    rw [← hstrays, ← hstrays']
    exact List.filter_append ..

/-- A step that refuses nothing and passes over nothing settles as the conversion before it. -/
theorem bind_quiet {f : α → Checked β} (hx : Settles x offence? strays P)
    (hf : ∀ a, P a → Settles (f a) none [] Q) : Settles (x >>= f) offence? strays Q := by
  have hbind := hx.bind hf
  rwa [Option.or_none, List.append_nil] at hbind

theorem map {f : α → β} (hx : Settles x offence? strays P) (hf : ∀ a, P a → Q (f a)) :
    Settles (x >>= fun a => Pure.pure (f a)) offence? strays Q :=
  hx.bind_quiet fun a ha => pure (hf a ha)

/-- A fold settles as its steps do. Every state that they reach has `I`, and `R` holds of a state, a
list and the state after it if it follows the list from its end. -/
theorem foldlM {f : σ → α → Checked σ} {offence? : α → Option ConvertError}
    {strays : α → List Notice} {I : σ → Prop} {R : σ → List α → σ → Prop} (last : ∀ s, R s [] s)
    (step : ∀ s a, I s → Settles (f s a) (offence? a) (strays a) fun s' =>
      I s' ∧ ∀ as t, R s' as t → R s (a :: as) t)
    (as : List α) {s : σ} (hs : I s) :
    Settles (as.foldlM f s) (as.findSome? offence?) (as.flatMap strays) (R s as) := by
  induction as generalizing s with
  | nil => exact pure (last s)
  | cons a as ih =>
    rw [List.foldlM_cons, findSome?_cons_eq_or, List.flatMap_cons]
    refine (step s a hs).bind fun s' ⟨hs', hR⟩ => ?_
    exact (ih hs').mono fun t => hR as t

/-! ## What is known of a settled conversion -/

variable (h : Settles x offence? strays P)
include h

theorem result_eq_error_iff {e : ConvertError} : x.result = .error e ↔ offence? = some e := by
  constructor
  · intro he
    cases hoffence : offence? with
    | none =>
      obtain ⟨-, a, ha, -⟩ := h.accepted hoffence
      cases ha.symm.trans he
    | some e' =>
      rw [h.refused e' hoffence] at he
      rw [Except.error.inj he]
  · exact h.refused e

theorem exists_result_iff : (∃ a, x.result = .ok a) ↔ offence? = none := by
  constructor
  · rintro ⟨a, ha⟩
    cases hoffence : offence? with
    | none => rfl
    | some e => cases ha.symm.trans (h.refused e hoffence)
  · intro hoffence
    obtain ⟨-, a, ha, -⟩ := h.accepted hoffence
    exact ⟨a, ha⟩

theorem of_result {a : α} (ha : x.result = .ok a) : x.strays = strays ∧ P a := by
  obtain ⟨hstrays, a', ha', hP⟩ := h.accepted (h.exists_result_iff.1 ⟨a, ha⟩)
  obtain rfl := Except.ok.inj (ha'.symm.trans ha)
  exact ⟨hstrays, hP⟩

end Settles

end Checked

end StoryWorld
