import GuardedCalls.Proofs.JsonText
import GuardedCalls.Proofs.TreeJson
import GuardedCalls.Tool.Documents

/-! Source files come back from their JSON: every kind of node from its value, and a file or a list
of files from the text of its value, on one line or on many, with the members as they are written or
sorted by name. Only the text has a limit, the depth up to which a document is read. -/

namespace GuardedCalls

namespace Json

variable {α : Type} {encode : α → Json}

@[simp] lemma fits_string (s : String) : Fits (.string s) := .string s

@[simp] lemma fits_bool (b : Bool) : Fits (.bool b) := .bool b

@[simp] lemma fits_array_iff {items : List Json} : Fits (.array items) ↔ ∀ j ∈ items, Fits j :=
  ⟨fun h => by cases h; assumption, .array⟩

@[simp] lemma fits_object_iff {members : List (String × Json)} :
    Fits (.object members) ↔ ∀ m ∈ members, Fits m.2 :=
  ⟨fun h => by cases h; assumption, .object⟩

@[simp] lemma fits_strings (values : List String) : Fits (.strings values) := by
  simp [strings]

@[simp] lemma fits_optionalMember_iff {name : String} {x : Option α} :
    (∀ n j, (n, j) ∈ optionalMember name encode x → Fits j) ↔ ∀ y ∈ x, Fits (encode y) := by
  cases x <;> simp [optionalMember]

lemma Fits.arranged (a : Arrangement) {j : Json} (hj : Fits j) : Fits (j.arranged a) := by
  induction hj with
  | null => exact .null
  | bool b => exact .bool b
  | int hi => exact .int hi
  | string s => exact .string s
  | array _ ih =>
    rw [Json.arranged]
    exact .array (forall_mem_arrangedItems a ih)
  | object _ ih =>
    rw [Json.arranged]
    exact .object (forall_mem_order_arrangedMembers a ih)

end Json

open Json

@[simp] lemma Literal.fits_toJson (l : Literal) : Fits l.toJson := by
  cases l with
  | int value =>
    have hl : -0x8000000000000000 ≤ value.toInt := value.le_toInt
    have hu : value.toInt < 0x8000000000000000 := value.toInt_lt
    have hi : Fits (.int value.toInt) := .int ⟨hl, by omega⟩
    simpa [toJson] using hi
  | _ => simp [toJson]

@[simp] lemma Primitive.fits_toJson (p : Primitive) : Fits p.toJson := .string _

@[simp] lemma Operator.fits_toJson (op : Operator) : Fits op.toJson := .string _

@[simp] lemma ErasedType.fits_toJson (t : ErasedType) : Fits t.toJson := by
  induction t with
  | array element ih => simpa [toJson] using ih
  | _ => simp [toJson]

@[simp] lemma TypeRef.fits_toJson (t : TypeRef) : Fits t.toJson := by
  simp [toJson]

@[simp] lemma Signature.fits_toJson (s : Signature) : Fits s.toJson := by
  simp [toJson]

@[simp] lemma Expr.fits_toJson (e : Expr) : Fits e.toJson := by
  induction e using parts_induction with
  | step e ih =>
    cases e with
    | call receiver name arguments signature =>
      simpa [toJson, receiverMember_eq, listToJson_eq, parts, or_imp, forall_and] using ih
    | construct type arguments => simpa [toJson, listToJson_eq, parts] using ih
    | ident | literal => simp [toJson]
    | _ => simpa [toJson, parts] using ih

@[simp] lemma Statement.fits_toJson (s : Statement) : Fits s.toJson := by
  cases s <;> simp [toJson]

@[simp] lemma Parameter.fits_toJson (p : Parameter) : Fits p.toJson := by
  simp [toJson]

@[simp] lemma Method.fits_toJson (m : Method) : Fits m.toJson := by
  simp [toJson]

@[simp] lemma ClassDecl.fits_toJson (c : ClassDecl) : Fits c.toJson := by
  simp [toJson]

@[simp] lemma Import.fits_toJson (i : Import) : Fits i.toJson := by
  simp [toJson]

@[simp] lemma SourceFile.fits_toJson (f : SourceFile) : Fits f.toJson := by
  simp [toJson, or_imp, forall_and]

namespace Json

def Recovers {α : Type} (decode : Json → Option α) (encode : α → Json) : Prop :=
  ∀ x, decode (encode x) = some x ∧ decode (encode x).sorted = some x

lemma RoundTrips.recovers {α : Type} {decode : Json → Option α} {encode : α → Json}
    (hd : RoundTrips decode encode) : Recovers decode encode := by
  intro x
  have hw := hd .asWritten x
  have hs := hd .byName x
  rw [arranged_asWritten] at hw
  rw [arranged_byName] at hs
  exact ⟨hw, hs⟩

end Json

namespace Documents

variable (a : Arrangement) {files : List SourceFile} {j : Json}

lemma ofJson?_file (f : SourceFile) : ofJson? (f.toJson.arranged a) = some [f] := by
  have hl : list? (SourceFile.ofJson? .document) (f.toJson.arranged a) = none := by
    simp [SourceFile.toJson, list?]
  rw [ofJson?, hl, SourceFile.roundTrips .document a f]
  rfl

lemma ofJson?_list (fs : List SourceFile) :
    ofJson? ((Json.array (fs.map SourceFile.toJson)).arranged a) = some fs := by
  rw [ofJson?, arranged_array, (SourceFile.roundTrips .document).list a fs]
  rfl

lemma parse_of_readValue {text : String} (hr : readValue maxNesting text.toList = .ok (j, []))
    (hj : ofJson? j = some files) (label : String) :
    parse label text = .ok { label, files } := by
  simp [parse, read, hr, hj, readEnd, skipBlank, Except.mapError, bind, Except.bind, pure,
    Except.pure]

def ReadFrom (files : List SourceFile) (j : Json) : Prop :=
  ∀ label, ∀ text ∈ [j.compact, j.pretty], parse label text = .ok { label, files }

lemma readFrom_of_fits (hf : Fits j) (hd : j.depth ≤ maxNesting) (hj : ofJson? j = some files) :
    ReadFrom files j := by
  have hr : ∀ l : Layout, readValue maxNesting (l.text 0 j) = .ok (j, []) := fun l => by
    have h := hf.readsBack l hd 0 [] (by simp [EndsNumber])
    rwa [List.append_nil] at h
  intro label text ht
  rcases List.mem_pair.mp ht with rfl | rfl
  · exact parse_of_readValue (toList_compact j 0 ▸ hr .onOneLine) hj label
  · exact parse_of_readValue (toList_prettyAt j 0 ▸ hr .indented) hj label

lemma readFrom_arranged (hf : Fits j) (hd : j.depth ≤ maxNesting)
    (hj : ofJson? (j.arranged a) = some files) : ReadFrom files (j.arranged a) :=
  readFrom_of_fits (hf.arranged a) (Nat.le_trans (depth_arranged_le a j) hd) hj

lemma readFrom_and_sorted (hf : Fits j) (hd : j.depth ≤ maxNesting)
    (hj : ∀ a : Arrangement, ofJson? (j.arranged a) = some files) :
    ReadFrom files j ∧ ReadFrom files j.sorted := by
  have hw := readFrom_arranged .asWritten hf hd (hj .asWritten)
  have hs := readFrom_arranged .byName hf hd (hj .byName)
  rw [arranged_asWritten] at hw
  rw [arranged_byName] at hs
  exact ⟨hw, hs⟩

end Documents

theorem nodes_and_documents_recovered (context : Context) :
    (Recovers (SourceFile.ofJson? context) SourceFile.toJson ∧
      Recovers Import.ofJson? Import.toJson ∧
      Recovers (ClassDecl.ofJson? context) ClassDecl.toJson ∧
      Recovers (Method.ofJson? context) Method.toJson ∧
      Recovers (Parameter.ofJson? context) Parameter.toJson ∧
      Recovers (Statement.ofJson? context) Statement.toJson ∧
      Recovers (Expr.ofJson? context) Expr.toJson ∧
      Recovers (Call.ofJson? context) Call.toJson ∧
      Recovers Literal.ofJson? Literal.toJson ∧
      Recovers (ErasedType.ofJson? context) ErasedType.toJson ∧
      Recovers (TypeRef.ofJson? context) TypeRef.toJson ∧
      Recovers (Signature.ofJson? context) Signature.toJson ∧
      Recovers Operator.ofJson? Operator.toJson ∧
      Recovers Primitive.ofJson? Primitive.toJson) ∧
    (∀ f : SourceFile, f.toJson.depth ≤ maxNesting →
      Documents.ReadFrom [f] f.toJson ∧ Documents.ReadFrom [f] f.toJson.sorted) ∧
    ∀ fs : List SourceFile, (Json.array (fs.map SourceFile.toJson)).depth ≤ maxNesting →
      Documents.ReadFrom fs (.array (fs.map SourceFile.toJson)) ∧
        Documents.ReadFrom fs (Json.array (fs.map SourceFile.toJson)).sorted := by
  refine ⟨⟨(SourceFile.roundTrips context).recovers, Import.roundTrips.recovers,
    (ClassDecl.roundTrips context).recovers, (Method.roundTrips context).recovers,
    (Parameter.roundTrips context).recovers, (Statement.roundTrips context).recovers,
    (Expr.roundTrips context).recovers, (Call.roundTrips context).recovers,
    Literal.roundTrips.recovers, (ErasedType.roundTrips context).recovers,
    (TypeRef.roundTrips context).recovers, (Signature.roundTrips context).recovers,
    Operator.roundTrips.recovers, Primitive.roundTrips.recovers⟩, fun f hd => ?_, fun fs hd => ?_⟩
  · exact Documents.readFrom_and_sorted f.fits_toJson hd fun a => Documents.ofJson?_file a f
  · exact Documents.readFrom_and_sorted (by simp) hd fun a => Documents.ofJson?_list a fs

theorem nodes_and_documents_recovered_two :
    let value : Expr :=
      .conditional (.typeTest (.ident "x" (some (.array .string))) ⟨"Log", none⟩)
        (.call (some (.paren (.cast ⟨"Log", some (.classType "p.Log")⟩ (.ident "x" none)))) "text"
          [.literal (.int (-0x8000000000000000)), .literal (.char '"'), .literal (.string "\x01é")]
          (some { declaringType := "p.Log", name := "text", result := .string }))
        (.literal .null) none
    let file : SourceFile :=
      { package := some "q", imports := [{ path := "p.Log" }]
        classes := [{ name := "C", methods :=
          [{ returnType := ⟨"String", none⟩, name := "f", body := [.returns (some value)] }] }] }
    file.toJson.depth ≤ maxNesting ∧
      (Json.array [file.toJson, file.toJson]).depth ≤ maxNesting ∧
      (∀ label, Documents.parse label file.toJson.pretty = .ok { label, files := [file] }) ∧
      ∀ label, Documents.parse label (Json.array [file.toJson, file.toJson]).sorted.compact =
        .ok { label, files := [file, file] } := by
  intro value file
  have hone : file.toJson.depth ≤ maxNesting := by decide +kernel
  have htwo : (Json.array [file.toJson, file.toJson]).depth ≤ maxNesting := by decide +kernel
  have h := nodes_and_documents_recovered .document
  refine ⟨hone, htwo, fun label => ?_, fun label => ?_⟩
  · exact (h.2.1 file hone).1 label _ (by simp)
  · exact (h.2.2 [file, file] htwo).2 label _ (by simp)

end GuardedCalls
