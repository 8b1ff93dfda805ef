import GuardedCalls.Java.Decode
import GuardedCalls.Java.Encode
import GuardedCalls.Proofs.MemberOrder
import GuardedCalls.Proofs.Parts

/-! Trees written as JSON values are read back as they were, in whatever order the members of an
object come. A record is taken apart field by field: the members of an object have different names,
so that each field finds its own. -/

namespace GuardedCalls

open Json (Record optionalMember string? bool? list? record?)

namespace Json

def RoundTrips {α : Type} (decode : Json → Option α) (encode : α → Json) : Prop :=
  ∀ (a : Arrangement) (x : α), decode ((encode x).arranged a) = some x

variable {α : Type} {decode : Json → Option α} {encode : α → Json}

lemma list?_map {xs : List α} (hx : ∀ x ∈ xs, decode (encode x) = some x) :
    list? decode (.array (xs.map encode)) = some xs := by
  rw [list?, List.mapM_map]
  induction xs with
  | nil => rfl
  | cons x xs ih =>
    have ht := ih fun y hy => hx y (List.mem_cons_of_mem x hy)
    simp [List.mapM_cons, hx x List.mem_cons_self, ht]

lemma RoundTrips.list (hd : RoundTrips decode encode) (a : Arrangement) (xs : List α) :
    list? decode (.array (xs.map fun x => (encode x).arranged a)) = some xs :=
  list?_map fun x _ => hd a x

lemma list?_strings (values : List String) : list? string? (.strings values) = some values :=
  list?_map fun _ _ => rfl

variable {position : Nat} {name other : String} {value : Json} {members : List (String × Json)}
  {r : Record}

namespace Record

lemma filter_eq_nil (hn : name ∉ names members) : members.filter (·.1 = name) = [] := by
  rw [List.filter_eq_nil_iff]
  intro m hm he
  exact hn (List.mem_map.mpr ⟨m, hm, by simpa using he⟩)

@[simp] lemma field_cons_self (hn : name ∉ names members) :
    (named ((name, value) :: members)).field position name = some (some value) := by
  simp [field, filter_eq_nil hn]

@[simp] lemma field_cons_of_ne (ho : other ≠ name) :
    (named ((other, value) :: members)).field position name =
      (named members).field position name := by
  simp [field, ho]

@[simp] lemma field_optionalMember_append (hn : name ∉ names members) (x : Option α) :
    (named (optionalMember name encode x ++ members)).field position name =
      some (x.map encode) := by
  cases x with
  | none => simp [optionalMember, field, filter_eq_nil hn]
  | some x => exact field_cons_self hn

@[simp] lemma field_optionalMember_append_of_ne (ho : other ≠ name) (x : Option α) :
    (named (optionalMember other encode x ++ members)).field position name =
      (named members).field position name := by
  cases x with
  | none => rfl
  | some x => exact field_cons_of_ne ho

@[simp] lemma field_optionalMember (x : Option α) :
    (named (optionalMember name encode x)).field position name = some (x.map encode) := by
  rw [← List.append_nil (optionalMember name encode x)]
  exact field_optionalMember_append List.not_mem_nil x

lemma optional_of_field_eq_none (hf : r.field position name = some none) :
    r.optional position name decode = some none := by
  simp [optional, hf]

lemma optional_of_field (hf : r.field position name = some (some value)) (hn : value ≠ .null) :
    r.optional position name decode = (decode value).map some := by
  simp only [optional, hf]
  cases value with
  | null => exact absurd rfl hn
  | _ => exact (Option.map_eq_bind ..).symm

lemma optional_member {x : Option α} (hf : r.field position name = some (x.map encode))
    (hn : ∀ y, encode y ≠ .null) (hx : ∀ y ∈ x, decode (encode y) = some y) :
    r.optional position name decode = some x := by
  cases x with
  | none => exact optional_of_field_eq_none hf
  | some y => rw [optional_of_field hf (hn y), hx y rfl, Option.map_some]

end Record

lemma RoundTrips.optional (hd : RoundTrips decode encode) (hn : ∀ y, encode y ≠ .null)
    (a : Arrangement) (x : Option α) {r : Record} {position : Nat} {name : String}
    (hf : r.field position name = some (x.map fun y => (encode y).arranged a)) :
    r.optional position name decode = some x :=
  Record.optional_member hf (fun y => arranged_ne_null a (hn y)) fun y _ => hd a y

end Json

open Json

lemma Primitive.roundTrips : RoundTrips Primitive.ofJson? Primitive.toJson := by
  intro a p
  cases p <;> rfl

lemma Operator.roundTrips : RoundTrips Operator.ofJson? Operator.toJson := by
  intro a op
  cases op <;> rfl

lemma Literal.roundTrips : RoundTrips Literal.ofJson? Literal.toJson := by
  intro a l
  cases l with
  | int value =>
    have hl : -0x8000000000000000 ≤ value.toInt := value.le_toInt
    have hu : value.toInt < 0x8000000000000000 := value.toInt_lt
    simp [ofJson?, toJson, nameChoice?, choice?, int64?, int?, Json.int, arranged, hl, hu]
  | _ => simp [ofJson?, toJson, nameChoice?, choice?, char?, string?, bool?]

namespace ErasedType

lemma toJson_ne_null (t : ErasedType) : t.toJson ≠ .null := by
  cases t <;> simp [toJson]

lemma ofJsonWithin?_toJson (a : Arrangement) (t : ErasedType) {bound : Nat}
    (hb : (t.toJson.arranged a).depth ≤ bound) (context : Context) :
    ofJsonWithin? (bound + 1) context (t.toJson.arranged a) = some t := by
  induction t generalizing bound context with
  | classType name =>
    simp [ofJsonWithin?, toJson, tagged?, Record.required, Kind.ofJson?, Record.hasArity, string?]
  | primitive p =>
    have hp : Primitive.ofFieldJson? (p.toJson.arranged a) = some p := Primitive.roundTrips a p
    simp [ofJsonWithin?, toJson, tagged?, Record.required, Kind.ofJson?, Record.hasArity, hp]
  | array element ih =>
    have hd : (element.toJson.arranged a).depth + 1 ≤ bound := by
      simpa [toJson, depth, depthMembers] using hb
    obtain ⟨bound, rfl⟩ := Nat.exists_eq_add_of_le' (Nat.le_of_add_left_le hd)
    have he := ih (Nat.le_of_succ_le_succ hd) .document
    rw [ofJsonWithin?, toJson]
    simp [tagged?, Record.required, Kind.ofJson?, Record.hasArity, he]
  | unknown =>
    simp [ofJsonWithin?, toJson, tagged?, Record.required, Kind.ofJson?, Record.hasArity]

lemma roundTrips (context : Context) : RoundTrips (ofJson? context) toJson :=
  fun a t => t.ofJsonWithin?_toJson a Nat.le.refl context

end ErasedType

lemma TypeRef.roundTrips (context : Context) :
    RoundTrips (TypeRef.ofJson? context) TypeRef.toJson := by
  intro a t
  have ht := (ErasedType.roundTrips context).optional ErasedType.toJson_ne_null a
  simp [ofJson?, toJson, record?, Record.required, string?, ht t.type]

lemma Signature.roundTrips (context : Context) :
    RoundTrips (Signature.ofJson? context) Signature.toJson := by
  intro a s
  have hp := (ErasedType.roundTrips context).list a s.parameters
  simp [ofJson?, toJson, record?, Record.required, Record.withDefault, string?, hp,
    ErasedType.roundTrips context a s.result]

lemma Signature.toJson_ne_null (s : Signature) : s.toJson ≠ .null := by
  simp [toJson]

namespace Expr

lemma toJson_ne_null (e : Expr) : e.toJson ≠ .null := by
  cases e <;> simp [toJson]

lemma receiverMember_eq (receiver : Option Expr) :
    receiverMember receiver = optionalMember "receiver" toJson receiver := by
  cases receiver <;> rfl

lemma listToJson_eq (es : List Expr) : listToJson es = es.map toJson := by
  induction es with
  | nil => rfl
  | cons e es ih => rw [listToJson, ih, List.map_cons]

end Expr

lemma Call.ofJsonWith?_toJson {context : Context} {expr : Json → Option Expr} (a : Arrangement)
    (c : Call) (hc : ∀ s ∈ c.toExpr.parts, expr (s.toJson.arranged a) = some s) :
    Call.ofJsonWith? context expr (c.toJson.arranged a) = some c := by
  have hr : ∀ {r : Record},
      r.field 0 "receiver" = some (c.receiver.map fun e => e.toJson.arranged a) →
      r.optional 0 "receiver" expr = some c.receiver := fun hf =>
    Record.optional_member hf (fun e => arranged_ne_null a e.toJson_ne_null) fun e he =>
      hc e (List.mem_append_left _ (Option.mem_toList.mpr he))
  have hl : list? expr (.array (c.arguments.map fun e => e.toJson.arranged a)) =
      some c.arguments :=
    list?_map fun e he => hc e (List.mem_append_right _ he)
  have hs := (Signature.roundTrips context).optional Signature.toJson_ne_null a
  simp [Call.ofJsonWith?, Call.toJson, record?, Record.required, Record.withDefault, string?,
    List.nodup_append, hr, hl, hs c.signature]

namespace Expr

lemma toJson_call (c : Call) : c.toExpr.toJson = .object [("method_invocation", c.toJson)] := by
  rw [Call.toExpr, toJson, receiverMember_eq, listToJson_eq]
  rfl

lemma depth_lt_of_mem_parts (a : Arrangement) {e s : Expr} (hs : s ∈ e.parts) :
    (s.toJson.arranged a).depth < (e.toJson.arranged a).depth := by
  -- A part is the value of a field, or an item of one, in the object that the kind leads to.
  have hlist : ∀ es : List Expr, s ∈ es →
      (s.toJson.arranged a).depth ≤ depthItems (es.map fun e => e.toJson.arranged a) :=
    fun es h => depth_le_depthItems (List.mem_map.mpr ⟨s, h, rfl⟩)
  cases e with
  | ident | literal => simp [parts] at hs
  | call receiver name arguments signature =>
    have hd : max (depthMembers (optionalMember "receiver" (fun e => e.toJson.arranged a) receiver))
        (depthItems (arguments.map fun e => e.toJson.arranged a)) <
          ((call receiver name arguments signature).toJson.arranged a).depth := by
      simp [toJson, receiverMember_eq, listToJson_eq, List.nodup_append, depth, depthMembers]
      omega
    rcases List.mem_append.mp hs with h | h
    · obtain rfl := Option.mem_toList.mp h
      exact Nat.lt_of_le_of_lt (depth_le_depthMembers (m := ("receiver", _)) List.mem_cons_self)
        (Nat.max_lt.mp hd).1
    · exact Nat.lt_of_le_of_lt (hlist arguments h) (Nat.max_lt.mp hd).2
  | construct type arguments =>
    have := hlist arguments hs
    simp [toJson, listToJson_eq, depth, depthMembers]
    omega
  | _ =>
    simp only [parts, List.mem_cons, List.not_mem_nil, or_false] at hs
    simp [toJson, depth, depthMembers]
    rcases hs with rfl | rfl | rfl <;> omega

lemma ofJsonWithin?_toJson (a : Arrangement) (e : Expr) {bound : Nat}
    (hb : (e.toJson.arranged a).depth ≤ bound) (context : Context) :
    ofJsonWithin? (bound + 1) context (e.toJson.arranged a) = some e := by
  induction e using parts_induction generalizing bound with
  | step e ih =>
    have hp : ∀ s ∈ e.parts, ofJsonWithin? bound context (s.toJson.arranged a) = some s := by
      intro s hs
      have hd := Nat.lt_of_lt_of_le (depth_lt_of_mem_parts a hs) hb
      obtain ⟨bound, rfl⟩ := Nat.exists_eq_add_of_le' (Nat.zero_lt_of_lt hd)
      exact ih s hs (Nat.le_of_lt_succ hd)
    rw [ofJsonWithin?]
    -- From here on only that the parts are read back matters, not how.
    generalize ofJsonWithin? bound context = expr at hp
    have htype := (ErasedType.roundTrips context).optional ErasedType.toJson_ne_null a
    have href := TypeRef.roundTrips context a
    cases e with
    | ident name type =>
      simp [toJson, choice?, ofChoice?, record?, Record.required, string?, htype type]
    | select target name type =>
      have ht := hp target (by simp [parts])
      simp [toJson, choice?, ofChoice?, record?, Record.required, string?, ht, htype type]
    | call receiver name arguments signature =>
      obtain ⟨c, hc⟩ : ∃ c : Call, c.toExpr = .call receiver name arguments signature :=
        ⟨⟨receiver, name, arguments, signature⟩, rfl⟩
      rw [← hc] at hp ⊢
      simp [toJson_call, choice?, ofChoice?, c.ofJsonWith?_toJson a hp]
    | literal value =>
      simp [toJson, choice?, ofChoice?, Literal.roundTrips a value]
    | typeTest operand type =>
      have ho := hp operand (by simp [parts])
      simp [toJson, choice?, ofChoice?, record?, Record.required, ho, href type]
    | cast type operand =>
      have ho := hp operand (by simp [parts])
      simp [toJson, choice?, ofChoice?, record?, Record.required, ho, href type]
    | paren inner =>
      have hi := hp inner (by simp [parts])
      simp [toJson, choice?, ofChoice?, record?, Record.required, hi]
    | conditional test yes no type =>
      have ht := hp test (by simp [parts])
      have hy := hp yes (by simp [parts])
      have hn := hp no (by simp [parts])
      simp [toJson, choice?, ofChoice?, record?, Record.required, ht, hy, hn, htype type]
    | construct type arguments =>
      have hl := list?_map (show ∀ s ∈ arguments, expr (s.toJson.arranged a) = some s from hp)
      simp [toJson, listToJson_eq, choice?, ofChoice?, record?, Record.required,
        Record.withDefault, hl, href type]
    | binary left op right type =>
      have hl := hp left (by simp [parts])
      have hr := hp right (by simp [parts])
      simp [toJson, choice?, ofChoice?, record?, Record.required, hl, hr, Operator.roundTrips a op,
        htype type]

lemma roundTrips (context : Context) : RoundTrips (ofJson? context) toJson :=
  fun a e => e.ofJsonWithin?_toJson a Nat.le.refl context

end Expr

lemma Call.roundTrips (context : Context) : RoundTrips (Call.ofJson? context) Call.toJson :=
  fun a c => c.ofJsonWith?_toJson a fun s _ => Expr.roundTrips context a s

lemma Statement.roundTrips (context : Context) :
    RoundTrips (Statement.ofJson? context) Statement.toJson := by
  intro a s
  have hv := (Expr.roundTrips context).optional Expr.toJson_ne_null a
  have he := Expr.roundTrips context a
  cases s with
  | localVariable type name init =>
    simp [ofJson?, toJson, choice?, body?, Record.required, string?, hv init,
      TypeRef.roundTrips context a type]
  | expression value => simp [ofJson?, toJson, choice?, body?, Record.required, he value]
  | returns value => simp [ofJson?, toJson, choice?, body?, hv value]
  | throws exception => simp [ofJson?, toJson, choice?, body?, Record.required, he exception]

lemma Parameter.roundTrips (context : Context) :
    RoundTrips (Parameter.ofJson? context) Parameter.toJson := by
  intro a p
  simp [ofJson?, toJson, record?, Record.required, string?, TypeRef.roundTrips context a p.type]

lemma Method.roundTrips (context : Context) :
    RoundTrips (Method.ofJson? context) Method.toJson := by
  intro a m
  have hp := (Parameter.roundTrips context).list a m.parameters
  have hb := (Statement.roundTrips context).list a m.body
  simp [ofJson?, toJson, record?, Record.required, Record.withDefault, string?,
    list?_strings m.modifiers, TypeRef.roundTrips context a m.returnType, hp, hb]

lemma ClassDecl.roundTrips (context : Context) :
    RoundTrips (ClassDecl.ofJson? context) ClassDecl.toJson := by
  intro a c
  have hm := (Method.roundTrips context).list a c.methods
  simp [ofJson?, toJson, record?, Record.required, Record.withDefault, string?,
    list?_strings c.modifiers, hm]

lemma Import.roundTrips : RoundTrips Import.ofJson? Import.toJson := by
  intro a i
  simp [ofJson?, toJson, record?, Record.required, Record.withDefault, string?, bool?]

lemma SourceFile.roundTrips (context : Context) :
    RoundTrips (SourceFile.ofJson? context) SourceFile.toJson := by
  intro a f
  have hp : ∀ {r : Record}, r.field 0 "package" = some (f.package.map Json.string) →
      r.optional 0 "package" string? = some f.package := fun hf =>
    Record.optional_member hf (by simp) fun _ _ => rfl
  have hi := Import.roundTrips.list a f.imports
  have hc := (ClassDecl.roundTrips context).list a f.classes
  simp [ofJson?, toJson, record?, Record.withDefault, List.nodup_append, hp, hi, hc]

end GuardedCalls
