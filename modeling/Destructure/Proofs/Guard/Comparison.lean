import Mathlib.Data.String.Basic
import Mathlib.Order.Compare
import Destructure.Proofs.Guard.Evaluation

set_option autoImplicit false

/-! # The order behind comparisons

Two of the six operators go by the equality of values, and four by the order of numbers or that of
texts. Both are about one partial order, `Value.order?`: where it relates two values, equality is its
equality (`Value.equals_of_order?`) and every operator accepts or refuses what it says
(`CompareOp.decide_of_order?`); where it does not, the four operators fail. So the operators describe
one order together (`Guard.compare_oneOrder`). -/

namespace Destructure

/-! ## Numbers -/

namespace Number

theorem compare?_eq_some {x y : Number} {o : Ordering} : x.compare? y = some o ↔
    (x.isNaN = false ∧ y.isNaN = false) ∧ compare x.key y.key = o := by
  unfold compare?
  cases x.isNaN <;> cases y.isNaN <;> simp

theorem compare?_swap (x y : Number) : y.compare? x = (x.compare? y).map Ordering.swap := by
  unfold compare?
  rw [Bool.or_comm]
  split
  · rfl
  · exact congrArg some Std.OrientedCmp.eq_swap

theorem equals_of_compare? {x y : Number} {o : Ordering} (h : x.compare? y = some o) :
    x.equals y = (o == .eq) := by
  obtain ⟨⟨hx, hy⟩, rfl⟩ := compare?_eq_some.1 h
  have hkey : (compare x.key y.key == .eq) = decide (x.key = y.key) := by
    rw [Bool.eq_iff_iff, beq_iff_eq, decide_eq_true_eq, Std.LawfulEqCmp.compare_eq_iff_eq]
  rw [equals, hx, hy, hkey]
  rfl

end Number

/-! ## Values -/

namespace Value

/-- Both values are texts, or both are numbers and neither is a NaN. -/
inductive Orderable : Value → Value → Prop where
  | texts (s t : String) : Orderable (.text s) (.text t)
  | numbers {x y : Number} (hx : x.isNaN = false) (hy : y.isNaN = false) :
    Orderable (.number x) (.number y)

/-- How the first value is ordered to the second, if it is. -/
def order? : Value → Value → Option Ordering
  | .number x, .number y => x.compare? y
  | .text s, .text t => some (compare s t)
  | _, _ => none

variable {a b c : Value} {o : Ordering}

theorem orderable_iff : a.Orderable b ↔ ∃ o, a.order? b = some o := by
  constructor
  · rintro (⟨s, t⟩ | ⟨hx, hy⟩)
    · exact ⟨_, rfl⟩
    · exact ⟨_, Number.compare?_eq_some.2 ⟨⟨hx, hy⟩, rfl⟩⟩
  · rintro ⟨o, h⟩
    unfold order? at h
    split at h
    · obtain ⟨⟨hx, hy⟩, -⟩ := Number.compare?_eq_some.1 h
      exact .numbers hx hy
    · exact .texts _ _
    · cases h

theorem order?_swap (a b : Value) : b.order? a = (a.order? b).map Ordering.swap := by
  unfold order?
  split
  · exact Number.compare?_swap _ _
  · exact congrArg some Std.OrientedCmp.eq_swap
  · next hnumbers htexts =>
    split
    · exact absurd rfl (hnumbers _ _ rfl)
    · exact absurd rfl (htexts _ _ rfl)
    · rfl

/-- The order is transitive. -/
theorem order?_trans (hab : a.order? b = some .lt) (hbc : b.order? c = some .lt) :
    a.order? c = some .lt := by
  -- the value in the middle is ordered, so it tells the kind of the other two
  cases b with
  | number y =>
    cases a with
    | number x =>
      cases c with
      | number z =>
        obtain ⟨⟨hx, hy⟩, hxy⟩ := Number.compare?_eq_some.1 hab
        obtain ⟨⟨-, hz⟩, hyz⟩ := Number.compare?_eq_some.1 hbc
        exact Number.compare?_eq_some.2 ⟨⟨hx, hz⟩, Std.TransCmp.lt_trans hxy hyz⟩
      | _ => cases hbc
    | _ => cases hab
  | text t =>
    cases a with
    | text s =>
      cases c with
      | text u =>
        have hst : compare s t = .lt := Option.some.inj hab
        have htu : compare t u = .lt := Option.some.inj hbc
        exact congrArg some (Std.TransCmp.lt_trans hst htu)
      | _ => cases hbc
    | _ => cases hab
  | _ => cases a <;> cases hab

/-- Texts are ordered lexicographically by code point. -/
theorem order?_text_eq_lt {s t : String} :
    (text s).order? (.text t) = some .lt ↔ List.Lex (· < ·) s.toList t.toList := by
  show some (compare s t) = some .lt ↔ s < t
  rw [Option.some.injEq, compare_lt_iff_lt]

/-- Numbers are ordered by their places on the number line. -/
theorem order?_number_eq_lt {x y : Number} (h : (number x).Orderable (.number y)) :
    (number x).order? (.number y) = some .lt ↔ x.key < y.key := by
  cases h with
  | numbers hx hy =>
    show x.compare? y = some .lt ↔ x.key < y.key
    rw [Number.compare?_eq_some, and_iff_right ⟨hx, hy⟩, compare_lt_iff_lt]

/-- Ordered values are equal when the order says so. -/
theorem equals_of_order? (h : a.order? b = some o) : a.equals b = (o == .eq) := by
  unfold order? at h
  split at h
  · rw [equals]
    exact Number.equals_of_compare? h
  · next s t =>
    obtain rfl := Option.some.inj h
    rw [equals, Bool.eq_iff_iff, beq_iff_eq, beq_iff_eq, Std.LawfulEqCmp.compare_eq_iff_eq]
  · cases h

end Value

/-! ## Operators -/

namespace CompareOp

/-- The operator asks for an order, and not only whether values are equal. -/
def orders (op : CompareOp) : Bool := op != .eq && op != .ne

variable {a b : Value} {o : Ordering}

/-- Of the three strict operators exactly one accepts an order. -/
theorem existsUnique_accepts (o : Ordering) :
    ∃! op, op ∈ [CompareOp.lt, .eq, .gt] ∧ op.accepts o = true := by
  cases o with
  | lt => exact ⟨.lt, by decide, by rintro (_ | _ | _ | _ | _ | _) <;> decide⟩
  | eq => exact ⟨.eq, by decide, by rintro (_ | _ | _ | _ | _ | _) <;> decide⟩
  | gt => exact ⟨.gt, by decide, by rintro (_ | _ | _ | _ | _ | _) <;> decide⟩

/-- Why the operator fails on values that are not ordered. -/
def refusal (op : CompareOp) (binding : String) : Value → Value → GuardError
  | .number _, .number _ => .unordered op
  | a, b => .incomparable a.kind op b.kind binding

/-- An operator that asks for an order goes by it, and fails where there is none. -/
theorem decide_of_orders {op : CompareOp} (hop : op.orders = true) (binding : String)
    (a b : Value) : op.decide binding a b = match a.order? b with
      | some o => .ok (op.accepts o)
      | none => .error (op.refusal binding a b) := by
  unfold CompareOp.decide
  split
  · cases hop
  · cases hop
  · next x y _ _ =>
    show _ = match x.compare? y with
      | some o => Except.ok (op.accepts o)
      | none => Except.error (GuardError.unordered op)
    cases x.compare? y <;> rfl
  · rfl
  · -- the values are not of one kind that has an order
    next hnumbers htexts =>
    have horder : a.order? b = none := by
      unfold Value.order?
      split
      · exact (hnumbers _ _ rfl rfl).elim
      · exact (htexts _ _ rfl rfl).elim
      · rfl
    have hrefusal : op.refusal binding a b = .incomparable a.kind op b.kind binding := by
      unfold refusal
      split
      · exact (hnumbers _ _ rfl rfl).elim
      · rfl
    rw [horder, hrefusal]

/-- Of ordered values every operator holds when it accepts their order. -/
theorem decide_of_order? (op : CompareOp) (binding : String) (h : a.order? b = some o) :
    op.decide binding a b = .ok (op.accepts o) := by
  have hequals := Value.equals_of_order? h
  cases op with
  | eq => rw [CompareOp.decide, hequals]; rfl
  | ne => rw [CompareOp.decide, hequals]; rfl
  | _ => rw [decide_of_orders rfl, h]

end CompareOp

/-! ## Guards -/

namespace Guard

/-- The guard is worth true in the scope. -/
def Holds (guard : Guard) (scope : Scope) : Prop := guard.value scope = .ok (.bool true)

variable {scope : Scope} {name : String} {a b : Value} {o : Ordering}

theorem value_compare_of_bound (h : scope.lookup name = some a) (op : CompareOp) (b : Value) :
    (compare name op b).value scope = Value.bool <$> op.decide name a b := by
  show compareIn name op b scope = _
  rw [compareIn, h]

theorem value_compare_of_order? (h : scope.lookup name = some a) (ho : a.order? b = some o)
    (op : CompareOp) : (compare name op b).value scope = .ok (.bool (op.accepts o)) := by
  rw [value_compare_of_bound h, CompareOp.decide_of_order? op name ho]
  rfl

theorem holds_of_order? (h : scope.lookup name = some a) (ho : a.order? b = some o)
    (op : CompareOp) : (compare name op b).Holds scope ↔ op.accepts o = true := by
  rw [Holds, value_compare_of_order? h ho, Except.ok.injEq, Value.bool.injEq]

/-- An operator that asks for an order fails exactly on values that have none. -/
theorem value_compare_eq_error_iff (h : scope.lookup name = some a) {op : CompareOp}
    (hop : op.orders = true) :
    (∃ e, (compare name op b).value scope = .error e) ↔ ¬ a.Orderable b := by
  rw [Value.orderable_iff, value_compare_of_bound h, CompareOp.decide_of_orders hop]
  cases a.order? b with
  | none => exact iff_of_true ⟨_, rfl⟩ (by simp)
  | some o => exact iff_of_false (by rintro ⟨e, ⟨⟩⟩) (by simp)

theorem holds_lt_iff (h : scope.lookup name = some a) :
    (compare name .lt b).Holds scope ↔ a.order? b = some .lt := by
  rw [Holds, value_compare_of_bound h, CompareOp.decide_of_orders rfl]
  cases a.order? b with
  | none => exact iff_of_false (by rintro ⟨⟩) (by rintro ⟨⟩)
  | some o => cases o <;> simp [CompareOp.accepts, Functor.map, Except.map]

/-- What the operators say of a value that is bound to a name, compared with a constant.

* `eq` and `ne` always answer, and tell whether the values are equal.
* The other four answer if the values are both texts or both numbers other than NaN, and fail
  otherwise.
* Where they answer, exactly one of `lt`, `eq` and `gt` holds, and `le` and `ge` are what they are
  called.
* Where they answer, they say the opposite of the values in each other's place.
* `lt` is transitive; it is the lexicographic order of texts by code point, and the order of the
  number line. -/
structure OneOrder (scope : Scope) (name : String) (a b : Value) : Prop where
  eq : (compare name .eq b).value scope = .ok (.bool (a.equals b))
  ne : (compare name .ne b).value scope = .ok (.bool (!a.equals b))
  answers : ∀ op : CompareOp, op.orders →
    ((∃ v, (compare name op b).value scope = .ok (.bool v)) ↔ a.Orderable b)
  fails : ∀ op : CompareOp, op.orders →
    ((∃ e, (compare name op b).value scope = .error e) ↔ ¬ a.Orderable b)
  one : a.Orderable b →
    ∃! op, op ∈ [CompareOp.lt, .eq, .gt] ∧ (compare name op b).Holds scope
  le : a.Orderable b → ((compare name .le b).Holds scope ↔
    (compare name .lt b).Holds scope ∨ (compare name .eq b).Holds scope)
  ge : a.Orderable b → ((compare name .ge b).Holds scope ↔
    (compare name .gt b).Holds scope ∨ (compare name .eq b).Holds scope)
  swap : a.Orderable b → ∀ scope' name', scope'.lookup name' = some b →
    (compare name .lt b).value scope = (compare name' .gt a).value scope' ∧
      (compare name .le b).value scope = (compare name' .ge a).value scope'
  trans : ∀ scope' name' c, scope'.lookup name' = some b → (compare name .lt b).Holds scope →
    (compare name' .lt c).Holds scope' → (compare name .lt c).Holds scope
  text : ∀ s t, a = .text s → b = .text t →
    ((compare name .lt b).Holds scope ↔ List.Lex (· < ·) s.toList t.toList)
  number : ∀ x y, a = .number x → b = .number y → a.Orderable b →
    ((compare name .lt b).Holds scope ↔ x.key < y.key)

theorem oneOrder_of_bound (h : scope.lookup name = some a) (b : Value) :
    OneOrder scope name a b where
  eq := by rw [value_compare_of_bound h]; rfl
  ne := by rw [value_compare_of_bound h]; rfl
  answers op hop := by
    rw [Value.orderable_iff, value_compare_of_bound h, CompareOp.decide_of_orders hop]
    cases a.order? b with
    | none => exact iff_of_false (by rintro ⟨v, ⟨⟩⟩) (by simp)
    | some o => exact iff_of_true ⟨_, rfl⟩ ⟨o, rfl⟩
  fails _ hop := value_compare_eq_error_iff h hop
  one horderable := by
    obtain ⟨o, ho⟩ := Value.orderable_iff.1 horderable
    simp only [holds_of_order? h ho]
    exact CompareOp.existsUnique_accepts o
  le horderable := by
    obtain ⟨o, ho⟩ := Value.orderable_iff.1 horderable
    simp only [holds_of_order? h ho]
    cases o <;> decide
  ge horderable := by
    obtain ⟨o, ho⟩ := Value.orderable_iff.1 horderable
    simp only [holds_of_order? h ho]
    cases o <;> decide
  swap horderable scope' name' h' := by
    obtain ⟨o, ho⟩ := Value.orderable_iff.1 horderable
    have hswap : b.order? a = some o.swap := by rw [Value.order?_swap, ho]; rfl
    simp only [value_compare_of_order? h ho, value_compare_of_order? h' hswap]
    cases o <;> exact ⟨rfl, rfl⟩
  trans scope' name' c h' hab hbc :=
    (holds_lt_iff h).2 (Value.order?_trans ((holds_lt_iff h).1 hab) ((holds_lt_iff h').1 hbc))
  text := by
    rintro s t rfl rfl
    rw [holds_lt_iff h, Value.order?_text_eq_lt]
  number := by
    rintro x y rfl rfl horderable
    rw [holds_lt_iff h, Value.order?_number_eq_lt horderable]

/-- A name that is not bound makes every comparison fail, and of a bound value the operators describe
one order. -/
theorem compare_oneOrder :
    (∀ scope name op b, scope.lookup name = none →
      (compare name op b).value scope = .error (.unbound name)) ∧
    ∀ scope name a b, scope.lookup name = some a → OneOrder scope name a b := by
  refine ⟨fun scope name op b h => ?_, fun scope name a b h => oneOrder_of_bound h b⟩
  show compareIn name op b scope = _
  rw [compareIn, h]

/-- Two directions, and a reading that is no number. -/
def directionsAndReading : Scope := .ofBindings (((Bindings.empty.bind "dir" (.text "north")).bind
  "wind" (.text "south")).bind "reading" (.number .nan))

theorem compare_oneOrder_directionsAndReading :
    directionsAndReading.lookup "dir" = some (.text "north") ∧
      (Value.text "north").Orderable (.text "south") ∧
      (compare "dir" .le (.text "south")).Holds directionsAndReading ∧
      (compare "dir" .lt (.text "west")).Holds directionsAndReading ∧
      (∃ e, (compare "reading" .ge (.number .zero)).value directionsAndReading = .error e) ∧
      (compare "reading" .eq (.number .nan)).value directionsAndReading = .ok (.bool false) ∧
      (compare "status" .eq .null).value directionsAndReading = .error (.unbound "status") := by
  obtain ⟨hunbound, hbound⟩ := compare_oneOrder
  have hdir : directionsAndReading.lookup "dir" = some (.text "north") := rfl
  have hwind : directionsAndReading.lookup "wind" = some (.text "south") := rfl
  have hreading : directionsAndReading.lookup "reading" = some (.number .nan) := rfl
  have horderable : (Value.text "north").Orderable (.text "south") := .texts ..
  have hsouth := hbound _ _ _ (.text "south") hdir
  have hwest := hbound _ _ _ (.text "west") hwind
  have hlt := (hsouth.text _ _ rfl rfl).2 (by decide)
  refine ⟨hdir, horderable, (hsouth.le horderable).2 (.inl hlt), ?_, ?_, ?_, ?_⟩
  · exact hsouth.trans _ _ _ hwind hlt ((hwest.text _ _ rfl rfl).2 (by decide))
  · refine ((hbound _ _ _ (.number .zero) hreading).fails .ge rfl).2 ?_
    rintro (_ | ⟨hnan, -⟩)
    exact absurd hnan (by decide)
  · rw [(hbound _ _ _ (.number .nan) hreading).eq]
    rw [Value.equals]
    rfl
  · exact hunbound _ _ _ _ rfl

end Guard

end Destructure
