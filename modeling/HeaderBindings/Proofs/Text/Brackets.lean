import HeaderBindings.Text.Basic
import Mathlib.Algebra.Order.Group.Int
import Mathlib.Data.List.Infix

/-!
# Balanced brackets

The depth of a text is how many more brackets it opens than it closes. A text is balanced if it has
depth zero and none of its beginnings has a negative one. Inside a text the same is said of what is
left of it: that it closes what is open there.
-/
namespace HeaderBindings.Text

/-- Which characters open a bracket and which close one. -/
structure Brackets where
  opener : Char → Bool
  closer : Char → Bool

namespace Brackets

/-- Parentheses alone. -/
def round : Brackets := ⟨(· = '('), (· = ')')⟩

variable (b : Brackets)

/-- How many more brackets a text opens than it closes. -/
def depth (t : Text) : ℤ := t.countP b.opener - t.countP b.closer

/-- A text closes what is open before it: it never closes more and leaves nothing open. -/
structure Closes (n : ℤ) (t : Text) : Prop where
  nonneg : ∀ u, u <+: t → 0 ≤ n + b.depth u
  total : n + b.depth t = 0

/-- No beginning of a text closes more brackets than it opens, and the whole closes as many. -/
def IsBalanced (t : Text) : Prop := b.Closes 0 t

@[simp] theorem depth_nil : b.depth [] = 0 := rfl

theorem depth_cons (c : Char) (t : Text) : b.depth (c :: t) = b.depth [c] + b.depth t := by
  simp only [depth, List.countP_cons, List.countP_nil]
  omega

variable {b}
variable {n : ℤ}

theorem Closes.zero_le {t : Text} (h : b.Closes n t) : 0 ≤ n := by
  simpa using h.nonneg [] List.nil_prefix

theorem closes_nil : b.Closes n [] ↔ n = 0 := by
  refine ⟨fun h => by simpa using h.total, ?_⟩
  rintro rfl
  refine ⟨fun u hu => ?_, rfl⟩
  rw [List.prefix_nil.mp hu]
  rfl

/-- A character changes what is open, and what follows it closes that. -/
theorem closes_cons {c : Char} {t : Text} :
    b.Closes n (c :: t) ↔ 0 ≤ n ∧ b.Closes (n + b.depth [c]) t := by
  have hstep : ∀ u, n + b.depth (c :: u) = n + b.depth [c] + b.depth u := by
    intro u
    rw [depth_cons, add_assoc]
  constructor
  · intro h
    refine ⟨h.zero_le, fun u hu => ?_, ?_⟩
    · rw [← hstep]
      exact h.nonneg _ (List.cons_prefix_cons.mpr ⟨rfl, hu⟩)
    · rw [← hstep]
      exact h.total
  · rintro ⟨hn, h⟩
    refine ⟨fun u hu => ?_, (hstep t).trans h.total⟩
    rcases List.prefix_cons_iff.mp hu with rfl | ⟨v, rfl, hv⟩
    · simpa using hn
    · rw [hstep]
      exact h.nonneg v hv

theorem depth_append (b : Brackets) (s t : Text) : b.depth (s ++ t) = b.depth s + b.depth t := by
  simp only [depth, List.countP_append]
  omega

theorem depth_singleton (b : Brackets) (c : Char) :
    b.depth [c] = 1 ∨ b.depth [c] = 0 ∨ b.depth [c] = -1 := by
  simp only [depth, List.countP_singleton]
  split_ifs <;> simp

theorem Closes.append {m : ℤ} {s t : Text} (hs : b.Closes m s) (ht : b.Closes n t) :
    b.Closes (m + n) (s ++ t) := by
  induction s generalizing m with
  | nil =>
    obtain rfl := closes_nil.mp hs
    simpa using ht
  | cons c s ih =>
    obtain ⟨hm, hs⟩ := closes_cons.mp hs
    refine closes_cons.mpr ⟨add_nonneg hm ht.zero_le, ?_⟩
    rw [add_right_comm]
    exact ih hs

/-- What closes more than was open before some point closes the rest behind a closing bracket. -/
theorem Closes.exists_closing {k : ℕ} {t : Text} (hn : 0 ≤ n) (h : b.Closes (k + 1 + n) t) :
    ∃ v c w, t = v ++ c :: w ∧ b.Closes k v ∧ b.depth [c] = -1 ∧ b.Closes n w := by
  induction t generalizing k with
  | nil =>
    have := closes_nil.mp h
    omega
  | cons d r ih =>
    obtain ⟨-, hr⟩ := closes_cons.mp h
    -- before the bracket that closes, a character leaves open what it finds or changes it by one
    have hlater {m : ℕ} (hm : (m : ℤ) = k + b.depth [d]) :
        ∃ v c w, d :: r = v ++ c :: w ∧ b.Closes k v ∧ b.depth [c] = -1 ∧ b.Closes n w := by
      have hopen : (k : ℤ) + 1 + n + b.depth [d] = m + 1 + n := by omega
      rw [hopen] at hr
      obtain ⟨v, c, w, rfl, hv, hc, hw⟩ := ih hr
      exact ⟨d :: v, c, w, rfl, closes_cons.mpr ⟨Int.natCast_nonneg k, hm ▸ hv⟩, hc, hw⟩
    rcases depth_singleton b d with hd | hd | hd
    · exact hlater (m := k + 1) (by omega)
    · exact hlater (m := k) (by omega)
    · cases k with
      | zero =>
        refine ⟨[], d, r, rfl, closes_nil.mpr rfl, hd, ?_⟩
        have hopen : ((0 : ℕ) : ℤ) + 1 + n + b.depth [d] = n := by omega
        rwa [hopen] at hr
      | succ k => exact hlater (m := k) (by omega)

/-- A balanced text cannot go on past the bracket that closes it. -/
theorem IsBalanced.eq_of_append {v v' w w' : Text} {c c' : Char} (hv : b.IsBalanced v)
    (hv' : b.IsBalanced v') (hc : b.depth [c] = -1) (hc' : b.depth [c'] = -1)
    (h : v ++ c :: w = v' ++ c' :: w') : v = v' ∧ c = c' ∧ w = w' := by
  have hstop {u x : Text} {d : Char} (hu : b.IsBalanced (u ++ d :: x)) (hb : b.IsBalanced u)
      (hd : b.depth [d] = -1) : False := by
    have hprefix : u ++ [d] <+: u ++ d :: x := ⟨x, by simp⟩
    have hnonneg := hu.nonneg _ hprefix
    have htotal := hb.total
    rw [depth_append] at hnonneg
    omega
  obtain ⟨a, rfl, ha⟩ | ⟨a, rfl, ha⟩ := List.append_eq_append_iff.mp h
  · cases a with
    | nil =>
      obtain ⟨rfl, rfl⟩ := List.cons.inj ha
      exact ⟨(List.append_nil v).symm, rfl, rfl⟩
    | cons d a =>
      obtain ⟨rfl, -⟩ := List.cons.inj ha
      exact (hstop hv' hv hc).elim
  · cases a with
    | nil =>
      obtain ⟨rfl, rfl⟩ := List.cons.inj ha
      exact ⟨List.append_nil v', rfl, rfl⟩
    | cons d a =>
      obtain ⟨rfl, -⟩ := List.cons.inj ha
      exact (hstop hv hv' hc').elim

end Brackets
end HeaderBindings.Text
