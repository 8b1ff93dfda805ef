import GuardedCalls.Java.Fold
import Mathlib.Tactic.Lemma

/-! The expressions right inside an expression, in the order of the text. A statement about all
expressions follows from its truth wherever it is true of the parts, and a function can be applied
to each part in its place. -/

namespace GuardedCalls

namespace Expr

def parts : Expr → List Expr
  | .ident .. => []
  | .select target _ _ => [target]
  | .call receiver _ arguments _ => receiver.toList ++ arguments
  | .literal _ => []
  | .typeTest operand _ => [operand]
  | .cast _ operand => [operand]
  | .paren inner => [inner]
  | .conditional test yes no _ => [test, yes, no]
  | .construct _ arguments => arguments
  | .binary left _ right _ => [left, right]

lemma sizeOf_lt_of_mem_parts {e s : Expr} (hs : s ∈ e.parts) : sizeOf s < sizeOf e := by
  cases e with
  | ident | literal => simp [parts] at hs
  | select | typeTest | cast | paren =>
    obtain rfl := List.mem_singleton.mp hs
    simp only [select.sizeOf_spec, typeTest.sizeOf_spec, cast.sizeOf_spec, paren.sizeOf_spec]
    omega
  | call receiver name arguments signature =>
    rcases List.mem_append.mp hs with h | h
    · obtain rfl := Option.mem_toList.mp h
      simp
      omega
    · have := List.sizeOf_lt_of_mem h
      simp
      omega
  | conditional | binary =>
    simp only [parts, List.mem_cons, List.not_mem_nil, or_false] at hs
    rcases hs with rfl | rfl | rfl <;> simp <;> omega
  | construct type arguments =>
    have := List.sizeOf_lt_of_mem (show s ∈ arguments from hs)
    simp
    omega

@[elab_as_elim]
theorem parts_induction {motive : Expr → Prop} (e : Expr)
    (step : ∀ e, (∀ s ∈ e.parts, motive s) → motive e) : motive e :=
  step e fun s _ => parts_induction s step
termination_by sizeOf e
decreasing_by exact sizeOf_lt_of_mem_parts ‹_›

def mapParts (operand part : Expr → Expr) : Expr → Expr
  | .ident name type => .ident name type
  | .select target name type => .select (operand target) name type
  | .call receiver name arguments signature =>
    .call (receiver.map operand) name (arguments.map part) signature
  | .literal value => .literal value
  | .typeTest tested type => .typeTest (operand tested) type
  | .cast type casted => .cast type (operand casted)
  | .paren inner => .paren (part inner)
  | .conditional test yes no type => .conditional (operand test) (part yes) (part no) type
  | .construct type arguments => .construct type (arguments.map part)
  | .binary left op right type => .binary (operand left) op (operand right) type

end Expr

lemma Call.toExpr_injective : Function.Injective Call.toExpr := by
  rintro ⟨receiver, name, arguments, signature⟩ ⟨receiver', name', arguments', signature'⟩ h
  simpa [Call.toExpr] using h

def Call.mapParts (operand part : Expr → Expr) (c : Call) : Call :=
  { c with receiver := c.receiver.map operand, arguments := c.arguments.map part }

namespace Expr

variable {operand part operand' part' : Expr → Expr} {e s : Expr}

lemma mapParts_congr (ho : ∀ s ∈ e.parts, operand s = operand' s)
    (hp : ∀ s ∈ e.parts, part s = part' s) : e.mapParts operand part = e.mapParts operand' part' := by
  cases e with
  | call receiver name arguments signature =>
    have hr : receiver.map operand = receiver.map operand' :=
      Option.map_congr fun s hs => ho s (List.mem_append_left _ (Option.mem_toList.mpr hs))
    have ha : arguments.map part = arguments.map part' :=
      List.map_congr_left fun s hs => hp s (List.mem_append_right _ hs)
    rw [mapParts, mapParts, hr, ha]
  | construct type arguments => exact congrArg (construct type) (List.map_congr_left hp)
  | _ => simp_all [mapParts, parts]

lemma mapParts_id (e : Expr) : e.mapParts id id = e := by
  cases e <;> simp [mapParts]

lemma mapParts_eq_self (ho : ∀ s ∈ e.parts, operand s = s) (hp : ∀ s ∈ e.parts, part s = s) :
    e.mapParts operand part = e :=
  (mapParts_congr ho hp).trans (mapParts_id e)

lemma mem_parts_mapParts (hs : s ∈ (e.mapParts operand part).parts) :
    ∃ t ∈ e.parts, s = operand t ∨ s = part t := by
  cases e with
  | call receiver name arguments signature =>
    rcases List.mem_append.mp hs with h | h
    · obtain ⟨t, ht, rfl⟩ := Option.map_eq_some_iff.mp (Option.mem_toList.mp h)
      exact ⟨t, List.mem_append_left _ (Option.mem_toList.mpr ht), .inl rfl⟩
    · obtain ⟨t, ht, rfl⟩ := List.mem_map.mp h
      exact ⟨t, List.mem_append_right _ ht, .inr rfl⟩
  | construct type arguments =>
    obtain ⟨t, ht, rfl⟩ := List.mem_map.mp hs
    exact ⟨t, ht, .inr rfl⟩
  | conditional | binary =>
    simp only [mapParts, parts, List.mem_cons, List.not_mem_nil, or_false] at hs
    rcases hs with rfl | rfl | rfl <;> simp [parts]
  | _ => simp_all [mapParts, parts]

lemma mapParts_mem_parts (hs : s ∈ e.parts) :
    operand s ∈ (e.mapParts operand part).parts ∨ part s ∈ (e.mapParts operand part).parts := by
  cases e with
  | call receiver name arguments signature =>
    rcases List.mem_append.mp hs with h | h
    · have hr : operand s ∈ receiver.map operand := Option.mem_map_of_mem _ (Option.mem_toList.mp h)
      exact .inl (List.mem_append_left _ (Option.mem_toList.mpr hr))
    · exact .inr (List.mem_append_right _ (List.mem_map_of_mem h))
  | construct type arguments => exact .inr (List.mem_map_of_mem hs)
  | conditional | binary =>
    simp only [parts, List.mem_cons, List.not_mem_nil, or_false] at hs
    rcases hs with rfl | rfl | rfl <;> simp [mapParts, parts]
  | _ => simp_all [mapParts, parts]

@[simp] lemma call?_mapParts (e : Expr) :
    (e.mapParts operand part).call? = e.call?.map (Call.mapParts operand part) := by
  cases e <;> rfl

@[simp] lemma isLoose_mapParts (e : Expr) : (e.mapParts operand part).isLoose = e.isLoose := by
  cases e <;> rfl

@[simp] lemma parts_toExpr (c : Call) : c.toExpr.parts = c.receiver.toList ++ c.arguments := rfl

@[simp] lemma call?_toExpr (c : Call) : c.toExpr.call? = some c := rfl

@[elab_as_elim]
theorem call_induction {motive : Expr → Prop} (e : Expr)
    (call : ∀ c : Call, (∀ s ∈ c.toExpr.parts, motive s) → motive c.toExpr)
    (other : ∀ e : Expr, e.call? = none → (∀ s ∈ e.parts, motive s) → motive e) : motive e := by
  induction e using parts_induction with
  | step e ih =>
    cases hc : e.call? with
    | none => exact other e hc ih
    | some c =>
      obtain rfl := (call?_eq_some_iff e c).mp hc
      exact call c ih

end Expr

end GuardedCalls
