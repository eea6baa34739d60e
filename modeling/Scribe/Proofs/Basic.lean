import Mathlib.Data.List.Forall2
import Mathlib.Data.List.Nodup
import Scribe.Text.Basic

/-!
# Lists, outcomes and texts

General facts that the proofs about files, sources and services share.
-/

namespace Scribe

/-! ## Outcomes -/

theorem bind_eq_ok_iff {ε α β : Type} {x : Except ε α} {f : α → Except ε β} {b : β} :
    x >>= f = .ok b ↔ ∃ a, x = .ok a ∧ f a = .ok b := by
  cases x <;> simp [bind, Except.bind]

theorem eq_ok_of_toOption {ε α : Type} {x : Except ε α} {a : α} (h : x.toOption = some a) :
    x = .ok a := by
  cases x <;> simp_all [Except.toOption]

/-! ## Lists -/

section

variable {α β γ : Type}

theorem length_eq_one_iff_of_mem {l : List α} (hl : l.Nodup) {a : α} (ha : a ∈ l) :
    l.length = 1 ↔ ∀ b ∈ l, b = a := by
  constructor
  · intro hone b hb
    obtain ⟨x, rfl⟩ := List.length_eq_one_iff.mp hone
    rw [List.mem_singleton.mp ha, List.mem_singleton.mp hb]
  · intro hall
    have hrep := List.eq_replicate_iff.mpr ⟨rfl, hall⟩
    have hle := List.nodup_replicate.mp (hrep ▸ hl)
    have hpos := List.length_pos_of_mem ha
    omega

/-- A property that holds of as many elements as a weaker one holds of the same elements. -/
theorem forall_of_countP_eq {l : List α} {p q : α → Bool}
    (himp : ∀ a ∈ l, p a = true → q a = true) (h : l.countP p = l.countP q) :
    ∀ a ∈ l, q a = true → p a = true := by
  have hfilter : (l.filter q).filter p = l.filter p := by
    rw [List.filter_filter]
    refine List.filter_congr fun a ha => ?_
    cases hp : p a with
    | false => rfl
    | true => exact himp a ha hp
  have hsub : (l.filter p).Sublist (l.filter q) := hfilter ▸ List.filter_sublist
  have hlength : (l.filter p).length = (l.filter q).length := by
    rw [← List.countP_eq_length_filter, ← List.countP_eq_length_filter, h]
  intro a ha hq
  have hmem : a ∈ l.filter q := List.mem_filter.mpr ⟨ha, hq⟩
  rw [← hsub.eq_of_length hlength] at hmem
  exact (List.mem_filter.mp hmem).2

/-- Elements that contribute nothing can be left out. -/
theorem flatMap_filter_of_eq_nil {p : α → Bool} {f : α → List β} {l : List α}
    (h : ∀ a ∈ l, p a = false → f a = []) : (l.filter p).flatMap f = l.flatMap f := by
  induction l with
  | nil => rfl
  | cons a rest ih =>
    obtain ⟨ha, hrest⟩ := List.forall_mem_cons.mp h
    rw [List.filter_cons, List.flatMap_cons, ← ih hrest]
    cases hp : p a with
    | false => simp [ha hp]
    | true => simp

/-! ## Lists side by side -/

variable {R : α → β → Prop} {as : List α} {bs : List β}

theorem exists_of_forall₂ (h : List.Forall₂ R as bs) {b : β} (hb : b ∈ bs) : ∃ a ∈ as, R a b := by
  induction h with
  | nil => cases hb
  | @cons a _ as bs hab hrest ih =>
    obtain rfl | hb := List.mem_cons.mp hb
    · exact ⟨a, List.mem_cons_self, hab⟩
    · obtain ⟨a', ha', hab'⟩ := ih hb
      exact ⟨a', List.mem_cons_of_mem a ha', hab'⟩

/-- What holds between the elements of a list carries over to the elements that stand for them. -/
theorem pairwise_of_forall₂ {S : α → α → Prop} {T : β → β → Prop} (h : List.Forall₂ R as bs)
    (has : as.Pairwise S) (hT : ∀ a b a' b', R a b → R a' b' → S a a' → T b b') :
    bs.Pairwise T := by
  induction h with
  | nil => exact .nil
  | @cons a b as bs hab hrest ih =>
    obtain ⟨hfirst, has⟩ := List.pairwise_cons.mp has
    refine List.pairwise_cons.mpr ⟨fun b' hb' => ?_, ih has⟩
    obtain ⟨a', ha', hab'⟩ := exists_of_forall₂ hrest hb'
    exact hT a b a' b' hab hab' (hfirst a' ha')

theorem forall₂_zip_of_forall₂ {S : α → γ → Prop} {cs : List γ} (hbs : List.Forall₂ R as bs)
    (hcs : List.Forall₂ S as cs) :
    List.Forall₂ (fun a p => R a p.1 ∧ S a p.2) as (bs.zip cs) := by
  induction hbs generalizing cs with
  | nil => exact .nil
  | cons hab _ ih =>
    cases hcs with
    | cons hac hrest => exact .cons ⟨hab, hac⟩ (ih hrest)

end

/-! ## Texts -/

theorem Text.startsWith_append_of_le {a start : Text} (b : Text)
    (h : start.symbols.length ≤ a.symbols.length) :
    (a ++ b).startsWith start = a.startsWith start := by
  rw [Bool.eq_iff_iff]
  simp only [Text.startsWith, List.isPrefixOf_iff_prefix, Text.symbols_append]
  constructor
  · intro hboth
    exact List.prefix_of_prefix_length_le hboth (List.prefix_append _ _) h
  · intro ha
    exact ha.trans (List.prefix_append _ _)

end Scribe
