import GuardedCalls.Java.Types

/-!
Expressions with the types and signatures that resolution found. A call is both an expression and a
thing of its own, `Call`.
-/

namespace GuardedCalls

inductive Literal
  | string (value : String)
  | int (value : Int64)
  | bool (value : Bool)
  | char (value : Char)
  | null
  deriving DecidableEq

inductive Operator
  | add
  | sub
  | equal
  | notEqual
  | and
  | or
  deriving DecidableEq

def Operator.all : List Operator :=
  [.add, .sub, .equal, .notEqual, .and, .or]

def Operator.token : Operator → String
  | .add => "+"
  | .sub => "-"
  | .equal => "=="
  | .notEqual => "!="
  | .and => "&&"
  | .or => "||"

inductive Expr
  | ident (name : String) (type : Option ErasedType)
  | select (target : Expr) (name : String) (type : Option ErasedType)
  | call (receiver : Option Expr) (name : String) (arguments : List Expr)
      (signature : Option Signature)
  | literal (value : Literal)
  | typeTest (operand : Expr) (type : TypeRef)
  | cast (type : TypeRef) (operand : Expr)
  | paren (inner : Expr)
  | conditional (test yes no : Expr) (type : Option ErasedType)
  | construct (type : TypeRef) (arguments : List Expr)
  | binary (left : Expr) (op : Operator) (right : Expr) (type : Option ErasedType)

instance : Inhabited Expr := ⟨.literal .null⟩

structure Call where
  receiver : Option Expr := none
  name : String
  arguments : List Expr := []
  signature : Option Signature := none

def Call.toExpr (c : Call) : Expr :=
  .call c.receiver c.name c.arguments c.signature

def Call.declaringType? (c : Call) : Option String :=
  c.signature.map (·.declaringType)

namespace Expr

def call? : Expr → Option Call
  | .call receiver name arguments signature => some ⟨receiver, name, arguments, signature⟩
  | _ => none

theorem call?_eq_some_iff (e : Expr) (c : Call) : e.call? = some c ↔ e = c.toExpr := by
  cases e <;> simp [call?, Call.toExpr]
  constructor
  · rintro rfl
    simp
  · rintro ⟨rfl, rfl, rfl, rfl⟩
    rfl

def string (value : String) : Expr :=
  .literal (.string value)

def isLoose : Expr → Bool
  | .conditional .. => true
  | .binary .. => true
  | .typeTest .. => true
  | .cast .. => true
  | _ => false

def asOperand (e : Expr) : Expr :=
  if e.isLoose then .paren e else e

end Expr

def Literal.type? : Literal → Option ErasedType
  | .string _ => some .string
  | .int _ => some (.primitive .int)
  | .bool _ => some (.primitive .boolean)
  | .char _ => some (.primitive .char)
  | .null => none

def Expr.type? : Expr → Option ErasedType
  | .ident _ type => type
  | .select _ _ type => type
  | .call _ _ _ signature => signature.map (·.result)
  | .literal value => value.type?
  | .typeTest .. => some (.primitive .boolean)
  | .cast type _ => type.type
  | .paren inner => inner.type?
  | .conditional _ _ _ type => type
  | .construct type _ => type.type
  | .binary _ _ _ type => type

mutual
def Expr.beq : Expr → Expr → Bool
  | .ident n t, .ident n' t' => n = n' && t = t'
  | .select e n t, .select e' n' t' => e.beq e' && n = n' && t = t'
  | .call r n as s, .call r' n' as' s' =>
    Expr.beqOption r r' && n = n' && Expr.beqList as as' && s = s'
  | .literal v, .literal v' => v = v'
  | .typeTest e t, .typeTest e' t' => e.beq e' && t = t'
  | .cast t e, .cast t' e' => t = t' && e.beq e'
  | .paren e, .paren e' => e.beq e'
  | .conditional c y n t, .conditional c' y' n' t' => c.beq c' && y.beq y' && n.beq n' && t = t'
  | .construct t as, .construct t' as' => t = t' && Expr.beqList as as'
  | .binary l o r t, .binary l' o' r' t' => l.beq l' && o = o' && r.beq r' && t = t'
  | _, _ => false

def Expr.beqOption : Option Expr → Option Expr → Bool
  | none, none => true
  | some e, some e' => e.beq e'
  | _, _ => false

def Expr.beqList : List Expr → List Expr → Bool
  | [], [] => true
  | e :: es, e' :: es' => e.beq e' && Expr.beqList es es'
  | _, _ => false
end

mutual
theorem Expr.beq_iff : ∀ a b : Expr, a.beq b = true ↔ a = b
  | .ident .., b => by cases b <;> simp [Expr.beq]
  | .select e _ _, b => by cases b <;> simp [Expr.beq, Expr.beq_iff e, and_assoc]
  | .call r _ as _, b => by
    cases b <;> simp [Expr.beq, Expr.beqOption_iff r, Expr.beqList_iff as, and_assoc]
  | .literal _, b => by cases b <;> simp [Expr.beq]
  | .typeTest e _, b => by cases b <;> simp [Expr.beq, Expr.beq_iff e]
  | .cast _ e, b => by cases b <;> simp [Expr.beq, Expr.beq_iff e]
  | .paren e, b => by cases b <;> simp [Expr.beq, Expr.beq_iff e]
  | .conditional c y n _, b => by
    cases b <;> simp [Expr.beq, Expr.beq_iff c, Expr.beq_iff y, Expr.beq_iff n, and_assoc]
  | .construct _ as, b => by cases b <;> simp [Expr.beq, Expr.beqList_iff as]
  | .binary l _ r _, b => by
    cases b <;> simp [Expr.beq, Expr.beq_iff l, Expr.beq_iff r, and_assoc]

theorem Expr.beqOption_iff : ∀ a b : Option Expr, Expr.beqOption a b = true ↔ a = b
  | none, none => by simp [Expr.beqOption]
  | none, some _ => by simp [Expr.beqOption]
  | some _, none => by simp [Expr.beqOption]
  | some e, some e' => by simp [Expr.beqOption, Expr.beq_iff e e']

theorem Expr.beqList_iff : ∀ a b : List Expr, Expr.beqList a b = true ↔ a = b
  | [], [] => by simp [Expr.beqList]
  | [], _ :: _ => by simp [Expr.beqList]
  | _ :: _, [] => by simp [Expr.beqList]
  | e :: es, e' :: es' => by simp [Expr.beqList, Expr.beq_iff e e', Expr.beqList_iff es es']
end

instance : DecidableEq Expr := fun a b => decidable_of_iff _ (Expr.beq_iff a b)

deriving instance DecidableEq for Call

end GuardedCalls
