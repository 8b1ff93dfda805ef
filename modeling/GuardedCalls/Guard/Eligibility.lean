import GuardedCalls.Guard.Recipe
import GuardedCalls.Guard.Template
import GuardedCalls.Java.Source

/-!
Which calls a recipe guards, and why it leaves others alone.
-/

namespace GuardedCalls

inductive SkipReason
  | typeMismatch (declaringType : String)
  | alreadyGuarded
  | unsupportedReceiver
  | template (error : GuardTemplate.Error)

def SkipReason.code : SkipReason → String
  | .typeMismatch _ => "type_mismatch"
  | .alreadyGuarded => "already_rewritten"
  | .unsupportedReceiver => "unsupported_receiver"
  | .template _ => "template_failure"

def SkipReason.message : SkipReason → String
  | .typeMismatch declaringType => "declared on " ++ declaringType ++ ", not the target type"
  | .alreadyGuarded => "call already names the target type"
  | .unsupportedReceiver => "receiver is not a variable, field or call chain"
  | .template error => error.message

def Call.guarded? (c : Call) : Option Expr :=
  match c.receiver with
  | some (.call inner _ _ _) => inner
  | some (.ident name type) => some (.ident name type)
  | some (.select target name type) => some (.select target name type)
  | _ => none

inductive Eligibility
  | noMatch
  | skip (reason : SkipReason)
  | eligible (receiver : Expr)

namespace Recipe

def namesTarget (r : Recipe) (c : Call) : Bool :=
  Text.occursIn r.target.simpleName.toList c.source.toList

def check (r : Recipe) (c : Call) : Eligibility :=
  match c.declaringType? with
  | none => .noMatch
  | some declaringType =>
    if !r.pattern.acceptsCall c then .noMatch
    else if declaringType ≠ r.target.text then .skip (.typeMismatch declaringType)
    else if r.namesTarget c then .skip .alreadyGuarded
    else
      match c.guarded? with
      | some receiver => .eligible receiver
      | none => .skip .unsupportedReceiver

def template (r : Recipe) (c : Call) (qualified : Bool) : GuardTemplate :=
  { target := r.target, call := c, qualified }

def guard (r : Recipe) (c : Call) (receiver : Expr) : Except GuardTemplate.Error Expr :=
  (r.template c false).apply receiver r.classpath

end Recipe

end GuardedCalls
