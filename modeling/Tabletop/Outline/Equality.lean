import Tabletop.Outline.Basic

/-!
# Equality of outlines

Two outlines are equal when they have the same shape and the same data in it. The
test recurses on both trees at once.
-/

namespace Tabletop.Outline

mutual

def same : Outline → Outline → Bool
  | .int a, .int b => a = b
  | .token a, .token b => a = b
  | .choice as e, .choice bs f => as = bs && e = f
  | .oneOf as, .oneOf bs => sameAll as bs
  | .chain as, .chain bs => sameAll as bs
  | .many a m none, .many b n none => same a b && m = n
  | .many a m (some d), .many b n (some e) => same a b && m = n && same d e
  | .opt a, .opt b => same a b
  | .doc n x a, .doc m y b => n = m && x = y && same a b
  | .player, .player => true
  | .space, .space => true
  | _, _ => false

def sameAll : List Outline → List Outline → Bool
  | [], [] => true
  | a :: as, b :: bs => same a b && sameAll as bs
  | _, _ => false

end

mutual

theorem same_self : (o : Outline) → same o o = true
  | .int _ => by simp [same]
  | .token _ => by simp [same]
  | .choice _ _ => by simp [same]
  | .oneOf os => by simp [same, sameAll_self os]
  | .chain os => by simp [same, sameAll_self os]
  | .many o _ none => by simp [same, same_self o]
  | .many o _ (some d) => by simp [same, same_self o, same_self d]
  | .opt o => by simp [same, same_self o]
  | .doc _ _ o => by simp [same, same_self o]
  | .player => by simp [same]
  | .space => by simp [same]

theorem sameAll_self : (os : List Outline) → sameAll os os = true
  | [] => by simp [sameAll]
  | o :: os => by simp [sameAll, same_self o, sameAll_self os]

end

mutual

theorem eq_of_same : (a b : Outline) → same a b = true → a = b
  | .int a, b, h => by cases b <;> simp_all [same]
  | .token a, b, h => by cases b <;> simp_all [same]
  | .choice as e, b, h => by cases b <;> simp_all [same]
  | .oneOf as, b, h => by
    cases b <;> simp only [same, reduceCtorEq] at h
    exact congrArg _ (eq_of_sameAll _ _ h)
  | .chain as, b, h => by
    cases b <;> simp only [same, reduceCtorEq] at h
    exact congrArg _ (eq_of_sameAll _ _ h)
  | .many a m none, b, h => by
    match b with
    | .many b n none =>
      simp only [same, Bool.and_eq_true, decide_eq_true_eq] at h
      rw [eq_of_same a b h.1, h.2]
    | .many _ _ (some _) | .int _ | .token _ | .choice _ _ | .oneOf _ | .chain _ | .opt _
    | .doc _ _ _ | .player | .space => simp [same] at h
  | .many a m (some d), b, h => by
    match b with
    | .many b n (some e) =>
      simp only [same, Bool.and_eq_true, decide_eq_true_eq] at h
      rw [eq_of_same a b h.1.1, h.1.2, eq_of_same d e h.2]
    | .many _ _ none | .int _ | .token _ | .choice _ _ | .oneOf _ | .chain _ | .opt _
    | .doc _ _ _ | .player | .space => simp [same] at h
  | .opt a, b, h => by
    cases b <;> simp only [same, reduceCtorEq] at h
    exact congrArg _ (eq_of_same _ _ h)
  | .doc n x a, b, h => by
    cases b <;> simp only [same, reduceCtorEq, Bool.and_eq_true, decide_eq_true_eq] at h
    rw [h.1.1, h.1.2, eq_of_same _ _ h.2]
  | .player, b, h => by cases b <;> simp_all [same]
  | .space, b, h => by cases b <;> simp_all [same]

theorem eq_of_sameAll : (as bs : List Outline) → sameAll as bs = true → as = bs
  | [], bs, h => by cases bs <;> simp_all [sameAll]
  | a :: as, [], h => by simp [sameAll] at h
  | a :: as, b :: bs, h => by
    simp only [sameAll, Bool.and_eq_true] at h
    rw [eq_of_same a b h.1, eq_of_sameAll as bs h.2]

end

theorem same_iff {a b : Outline} : same a b = true ↔ a = b :=
  ⟨eq_of_same a b, fun h => h ▸ same_self a⟩

instance : DecidableEq Outline := fun _ _ => decidable_of_iff _ same_iff

end Tabletop.Outline
