import ObjectGraph.Proofs.Coercion.Projection
import ObjectGraph.Proofs.Value.Order

/-!
# Coercions that settle

Merging coerces values again that were coerced before, and coerces only one of several equal ones.
Both do no harm if the coercion is steady: it keeps what it once gave, and it does not tell equal
values apart.

* `Coercion.standard_steady`: the standard rules are steady.
-/

namespace ObjectGraph

namespace Coercion

/-- Keeps its own results, and treats equal values alike. -/
structure Steady (c : Coercion) : Prop where
  keeps : ∀ t v w, c t v = .ok w → c t w = .ok w
  respects : ∀ t a b, a.equal b = true →
    (∃ e f, c t a = .error e ∧ c t b = .error f) ∨
      ∃ v w, c t a = .ok v ∧ c t b = .ok w ∧ v.equal w = true

/-! ## The standard rules -/

/-- The value is of the declared type: of an enumeration it names a declared variant. -/
inductive Settled : ElementType → Value → Prop
  | null {t : ElementType} : Settled t .null
  | any {v : Value} : Settled .any v
  | boolean {b : Bool} : Settled .boolean (.boolean b)
  | integer {i : Int32} : Settled .integer (.integer i)
  | long {l : Int64} : Settled .long (.long l)
  | float {x : Single} : Settled .float (.float x)
  | double {x : Double} : Settled .double (.double x)
  | character {c : Char} : Settled .character (.character c)
  | string {s : String} : Settled .string (.string s)
  | enum {e : Enumeration} {variant : String} :
    e.hasVariant variant = true → Settled (.enum e) (.enum e.name variant)
  | entity {typeName : String} {h : Handle} : Settled (.entity typeName) (.entity h)

theorem Settled.of_isOf {t : ElementType} {v : Value} (typed : v.isOf t = true) : Settled t v := by
  cases t with
  | any => exact .any
  | enum e =>
    cases v with
    | enum typeName variant =>
      obtain ⟨rfl, declared⟩ : typeName = e.name ∧ e.hasVariant variant = true := by
        simpa [Value.isOf] using typed
      exact .enum declared
    | _ => cases typed
  | _ =>
    cases v with
    | _ => first | constructor | cases typed

theorem Settled.standard_eq {t : ElementType} {v : Value} (settled : Settled t v) :
    standard t v = .ok v := by
  cases settled with
  | null => exact standard_null t
  | any => exact standard_any v
  | enum declared => exact if_pos ⟨rfl, declared⟩
  | _ => rfl

/-- What the standard rules give is of the declared type. -/
theorem settled_of_standard {t : ElementType} {v w : Value} (done : standard t v = .ok w) :
    Settled t w := by
  by_cases absent : v = .null
  · subst absent
    rw [standard_null] at done
    cases done
    exact .null
  · exact .of_isOf (isOf_of_standard absent done)

/-- **The standard rules are steady.** -/
theorem standard_steady : standard.Steady where
  keeps t v w done := (settled_of_standard done).standard_eq
  respects t a b same := by
    rcases Value.eq_or_entities_of_equal same with ⟨rfl, -⟩ | ⟨g, h, rfl, rfl⟩
    · cases done : standard t a with
      | error e => exact .inl ⟨e, e, rfl, rfl⟩
      | ok w => exact .inr ⟨w, w, rfl, rfl, w.equal_self⟩
    · cases t with
      | any => exact .inr ⟨_, _, rfl, rfl, same⟩
      | entity typeName => exact .inr ⟨_, _, rfl, rfl, same⟩
      | _ => exact .inl ⟨_, _, rfl, rfl⟩

end Coercion

end ObjectGraph
