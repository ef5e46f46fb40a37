import DepTagger.Fault

namespace DepTagger

namespace Address

def least : Int := -9223372036854775808

def greatest : Int := 9223372036854775807

def resolve (n : Nat) (k : Int) : Except Fault (Fin n) :=
  if k < least ∨ greatest < k then .error .tooWide
  else
    let j := if k < 0 then k + n else k
    if h : 0 ≤ j ∧ j < n then .ok ⟨j.toNat, by omega⟩ else .error .outOfRange

theorem resolve_of_lt {n k : Nat} (h : k < n) (hk : (k : Int) ≤ greatest) :
    resolve n k = .ok ⟨k, h⟩ := by
  have h1 : ¬ ((k : Int) < least ∨ greatest < k) := by
    simp only [least]
    omega
  have h2 : ¬ (k : Int) < 0 := by omega
  have h3 : 0 ≤ (k : Int) ∧ (k : Int) < n := by omega
  unfold resolve
  rw [if_neg h1]
  simp only [h2, if_false]
  rw [dif_pos h3]
  rfl

theorem resolve_neg_one {n : Nat} (h : 0 < n) : resolve n (-1) = .ok ⟨n - 1, by omega⟩ := by
  have h1 : ¬ ((-1 : Int) < least ∨ greatest < -1) := by
    simp only [least, greatest]
    omega
  have h3 : 0 ≤ (-1 + n : Int) ∧ (-1 + n : Int) < n := by omega
  unfold resolve
  rw [if_neg h1]
  simp only [show (-1 : Int) < 0 from by omega, if_true]
  rw [dif_pos h3]
  simp only [Except.ok.injEq, Fin.mk.injEq]
  omega

end Address

end DepTagger
