import FrameSchema.Proofs.Bindings.PrintedLines

/-!
# Proofs/Bindings/PrintedBodies — what a function is read back to

The second line of a function and one behind it tell its kind (`kindOf_lines`), so functions of one
text are of one kind, and these are compared part by part: the first line gives names and types
away, and those behind it numbers, fields and routes (`Body.lines_inj`).  It takes that whatever
stands between fixed texts is a token (`Body.Readable`); then all lines are flush as well, and the
text of a function has no lines but its own (`Function.alike_of_render_eq`).
-/

namespace FrameSchema.Bindings

open Text (IsToken OneLine Flush append_inj_of_all)

/-! ## Functions that are alike -/

/-- The two say the same of frames: all names, types, numbers and routes are equal, and so are the
fields, but for defaults of one value. -/
inductive Body.Alike : Body → Body → Prop where
  | encodeMethod (argsType : String) (classId methodId : UInt16) {fields fields' : List EncodeField}
      (h : List.Forall₂ EncodeField.Alike fields fields') :
      Alike (.encodeMethod argsType classId methodId fields)
        (.encodeMethod argsType classId methodId fields')
  | encodeHeader (propertiesType : String) (classId : UInt16) {fields fields' : List EncodeField}
      (h : List.Forall₂ EncodeField.Alike fields fields') :
      Alike (.encodeHeader propertiesType classId fields)
        (.encodeHeader propertiesType classId fields')
  | decodeMethod (valueType : String) (fields : List DecodeField) :
      Alike (.decodeMethod valueType fields) (.decodeMethod valueType fields)
  | decodeHeader (headerType propertiesType : String) (fields : List DecodeField) :
      Alike (.decodeHeader headerType propertiesType fields)
        (.decodeHeader headerType propertiesType fields)
  | dispatchMethod (union : String) (classes : List ClassRoute) :
      Alike (.dispatchMethod union classes) (.dispatchMethod union classes)
  | dispatchHeader (union : String) (routes : List Route) :
      Alike (.dispatchHeader union routes) (.dispatchHeader union routes)

/-- What a function names are tokens, and its defaults are such as its fields admit. -/
def Body.Readable : Body → Prop
  | encodeMethod argsType _ _ fields => IsToken argsType ∧ ∀ f ∈ fields, f.Readable
  | encodeHeader propertiesType _ fields =>
    IsToken propertiesType ∧ ∀ f ∈ fields, IsToken f.ident ∧ f.default = none
  | decodeMethod valueType fields => IsToken valueType ∧ ∀ d ∈ fields, IsToken d.ident
  | decodeHeader headerType propertiesType fields =>
    IsToken headerType ∧ IsToken propertiesType ∧ ∀ d ∈ fields, IsToken d.ident
  | dispatchMethod union classes =>
    IsToken union ∧ ∀ c ∈ classes, ∀ r ∈ c.methods, r.Readable
  | dispatchHeader union routes => IsToken union ∧ ∀ r ∈ routes, r.Readable

/-- The name is a token, a remark stays on its line, and the body is readable. -/
structure Function.Readable (f : Function) : Prop where
  name : IsToken f.name
  doc : ∀ remark ∈ f.doc, OneLine remark
  body : f.body.Readable

/-! ## Kinds -/

/-- The kinds of functions. -/
inductive Kind where
  | encodeMethod | encodeHeader | decodeMethod | decodeHeader | dispatchMethod | dispatchHeader
  deriving DecidableEq

/-- What a function does. -/
def Body.kind : Body → Kind
  | encodeMethod .. => .encodeMethod
  | encodeHeader .. => .encodeHeader
  | decodeMethod .. => .decodeMethod
  | decodeHeader .. => .decodeHeader
  | dispatchMethod .. => .dispatchMethod
  | dispatchHeader .. => .dispatchHeader

/-- What a function does as its lines tell it: the second one, and one that follows. -/
def kindOf (lines : List Line) : Kind :=
  if lines[1]? = some ⟨1, "let mut buf = Vec::new();"⟩ then
    if lines[4]? = some ⟨1, "wire::write_longlong(&mut buf, body_size)?;"⟩ then .encodeHeader
    else .encodeMethod
  else if lines[1]? = some ⟨1, "let _weight = reader.read_short()?;"⟩ then .decodeHeader
  else if lines[1]? = some ⟨1, "let mut reader = Reader::new(bytes);"⟩ then
    if lines[3]? = some ⟨1, "match class_id \x7b"⟩ then .dispatchHeader else .dispatchMethod
  else .decodeMethod

/-- **The lines tell what a function does.** -/
@[simp] theorem kindOf_lines (name : String) (body : Body) :
    kindOf (body.lines name) = body.kind := by
  cases body with
  | encodeMethod argsType classId methodId fields =>
    cases fields <;> rfl
  | encodeHeader propertiesType classId fields => rfl
  | decodeMethod valueType fields =>
    cases fields <;> rfl
  | decodeHeader headerType propertiesType fields => rfl
  | dispatchMethod union classes => rfl
  | dispatchHeader union routes => rfl

/-! ## Bodies -/

theorem lines_decodeMethod (name valueType : String) (fields : List DecodeField) :
    (Body.decodeMethod valueType fields).lines name =
      signature name "reader: &mut Reader<'_>" valueType ::
        (readLines "reader.read_fields" ": fields.take()?," 2
          (block 1 ["reader.read_fields(&[])?;", "Ok(" ++ valueType ++ " \x7b\x7d)"])
          [⟨1, "Ok(" ++ valueType ++ " \x7b"⟩] [⟨1, "\x7d)"⟩] fields ++ [⟨0, "\x7d"⟩]) := by
  simp only [Body.lines, readLines, List.append_assoc, List.cons_append, List.nil_append]

theorem lines_decodeHeader (name headerType propertiesType : String) (fields : List DecodeField) :
    (Body.decodeHeader headerType propertiesType fields).lines name =
      signature name "reader: &mut Reader<'_>" headerType ::
        (block 1 ["let _weight = reader.read_short()?;",
          "let body_size = reader.read_longlong()?;"] ++
        (readLines "reader.read_optional_fields" ": fields.take_optional()?," 3
          [⟨1, "reader.read_optional_fields(&[])?;"⟩, ⟨1, "Ok(" ++ headerType ++ " \x7b"⟩,
            ⟨2, "body_size,"⟩, ⟨2, "properties: " ++ propertiesType ++ " \x7b\x7d,"⟩]
          [⟨1, "Ok(" ++ headerType ++ " \x7b"⟩, ⟨2, "body_size,"⟩,
            ⟨2, "properties: " ++ propertiesType ++ " \x7b"⟩] [⟨2, "\x7d,"⟩] fields ++
          [⟨1, "\x7d)"⟩, ⟨0, "\x7d"⟩])) := by
  simp only [Body.lines, readLines, block, List.append_assoc, List.cons_append, List.nil_append,
    List.map_cons, List.map_nil]

section Bodies

variable {name name' : String} (hname : IsToken name) (hname' : IsToken name')
include hname hname'

/-- The encoder of a method is told by its lines: its numbers, and its fields one by one. -/
theorem encodeMethod_inj {argsType argsType' : String}
    {classId classId' methodId methodId' : UInt16} {fields fields' : List EncodeField}
    (hbody : (Body.encodeMethod argsType classId methodId fields).Readable)
    (hbody' : (Body.encodeMethod argsType' classId' methodId' fields').Readable)
    (h : (Body.encodeMethod argsType classId methodId fields).lines name
      = (Body.encodeMethod argsType' classId' methodId' fields').lines name') :
    name = name' ∧ (Body.encodeMethod argsType classId methodId fields).Alike
      (.encodeMethod argsType' classId' methodId' fields') := by
  simp only [Body.lines, List.cons_append, List.nil_append, List.cons.injEq, true_and] at h
  obtain ⟨hsignature, hclassId, hmethodId, hvalues⟩ := h
  have hfront (owner : String) : owner = "" ++ owner := String.empty_append.symm
  rw [hfront (parameter _ _), hfront (parameter (!fields'.isEmpty) _)] at hsignature
  obtain ⟨rfl, rfl⟩ := signature_owner_inj hname hname' (isToken_parameter (by decide) _)
    (isToken_parameter (by decide) _) hbody.1 hbody'.1 hsignature
  obtain rfl := writeShortLine_inj hclassId
  obtain rfl := writeShortLine_inj hmethodId
  refine ⟨rfl, .encodeMethod _ _ _ (forall₂_of_map_eq (fun f hf g hg => ?_)
    (valueListLines_inj (List.append_cancel_right hvalues)))⟩
  exact encodeExpr_inj (hbody.2 f hf) (hbody'.2 g hg)

theorem encodeHeader_inj {propertiesType propertiesType' : String} {classId classId' : UInt16}
    {fields fields' : List EncodeField}
    (hbody : (Body.encodeHeader propertiesType classId fields).Readable)
    (hbody' : (Body.encodeHeader propertiesType' classId' fields').Readable)
    (h : (Body.encodeHeader propertiesType classId fields).lines name
      = (Body.encodeHeader propertiesType' classId' fields').lines name') :
    name = name' ∧ (Body.encodeHeader propertiesType classId fields).Alike
      (.encodeHeader propertiesType' classId' fields') := by
  simp only [Body.lines, List.cons_append, List.nil_append, List.cons.injEq, true_and] at h
  obtain ⟨hsignature, hclassId, hvalues⟩ := h
  obtain ⟨rfl, rfl⟩ := signature_owner_inj hname hname' (isToken_parameter (by decide) _)
    (isToken_parameter (by decide) _) hbody.1 hbody'.1 hsignature
  obtain rfl := writeShortLine_inj hclassId
  refine ⟨rfl, .encodeHeader _ _ (forall₂_of_map_eq (fun f hf g hg hexpr => ?_)
    (valueListLines_inj (List.append_cancel_right hvalues)))⟩
  obtain ⟨hident, hprimitive⟩ := optionalExpr_inj (hbody.2 f hf).1 (hbody'.2 g hg).1 hexpr
  exact ⟨hident, hprimitive, by rw [(hbody.2 f hf).2, (hbody'.2 g hg).2]; rfl⟩

/-- The decoder of a method is told by its lines: its type, and its fields in order. -/
theorem decodeMethod_inj {valueType valueType' : String} {fields fields' : List DecodeField}
    (hbody : (Body.decodeMethod valueType fields).Readable)
    (hbody' : (Body.decodeMethod valueType' fields').Readable)
    (h : (Body.decodeMethod valueType fields).lines name
      = (Body.decodeMethod valueType' fields').lines name') :
    name = name' ∧
      (Body.decodeMethod valueType fields).Alike (.decodeMethod valueType' fields') := by
  rw [lines_decodeMethod, lines_decodeMethod, List.cons.injEq] at h
  obtain ⟨rfl, rfl⟩ := signature_result_inj hname hname' hbody.1 hbody'.1 h.1
  obtain ⟨rfl, -⟩ := readLines_append_inj (by decide) (by decide) (by rfl) h.2
  exact ⟨rfl, .decodeMethod _ _⟩

theorem decodeHeader_inj {headerType headerType' propertiesType propertiesType' : String}
    {fields fields' : List DecodeField}
    (hbody : (Body.decodeHeader headerType propertiesType fields).Readable)
    (hbody' : (Body.decodeHeader headerType' propertiesType' fields').Readable)
    (h : (Body.decodeHeader headerType propertiesType fields).lines name
      = (Body.decodeHeader headerType' propertiesType' fields').lines name') :
    name = name' ∧ (Body.decodeHeader headerType propertiesType fields).Alike
      (.decodeHeader headerType' propertiesType' fields') := by
  rw [lines_decodeHeader, lines_decodeHeader, List.cons.injEq] at h
  obtain ⟨rfl, rfl⟩ := signature_result_inj hname hname' hbody.1 hbody'.1 h.1
  obtain ⟨rfl, hproperties⟩ :=
    readLines_append_inj (by decide) (by decide) (by rfl) (List.append_cancel_left h.2)
  have heq : propertiesType = propertiesType' := by
    split at hproperties
    · simpa [String.append_assoc] using hproperties
    · simpa [String.append_assoc] using hproperties
  subst heq
  exact ⟨rfl, .decodeHeader _ _ _⟩

/-- The dispatcher of methods is told by its lines, class by class and route by route. -/
theorem dispatchMethod_inj {union union' : String} {classes classes' : List ClassRoute}
    (hbody : (Body.dispatchMethod union classes).Readable)
    (hbody' : (Body.dispatchMethod union' classes').Readable)
    (h : (Body.dispatchMethod union classes).lines name
      = (Body.dispatchMethod union' classes').lines name') :
    name = name' ∧ (Body.dispatchMethod union classes).Alike (.dispatchMethod union' classes') := by
  simp only [Body.lines, List.cons_append, List.nil_append, List.append_assoc, List.cons.injEq] at h
  obtain ⟨hsignature, hbehind⟩ := h
  obtain ⟨rfl, rfl⟩ := signature_result_inj hname hname' hbody.1 hbody'.1 hsignature
  obtain rfl := classes_inj hbody.2 hbody'.2
    (List.append_cancel_left (List.append_cancel_left hbehind))
  exact ⟨rfl, .dispatchMethod _ _⟩

theorem dispatchHeader_inj {union union' : String} {routes routes' : List Route}
    (hbody : (Body.dispatchHeader union routes).Readable)
    (hbody' : (Body.dispatchHeader union' routes').Readable)
    (h : (Body.dispatchHeader union routes).lines name
      = (Body.dispatchHeader union' routes').lines name') :
    name = name' ∧ (Body.dispatchHeader union routes).Alike (.dispatchHeader union' routes') := by
  simp only [Body.lines, List.cons_append, List.nil_append, List.append_assoc, List.cons.injEq] at h
  obtain ⟨hsignature, hbehind⟩ := h
  obtain ⟨rfl, rfl⟩ := signature_result_inj hname hname' hbody.1 hbody'.1 hsignature
  obtain rfl := routes_inj hbody.2 hbody'.2
    (List.append_cancel_right (List.cons.inj (List.append_cancel_left hbehind)).2)
  exact ⟨rfl, .dispatchHeader _ _⟩

end Bodies

/-- **A body is read off its lines**, up to defaults of one value. -/
theorem Body.lines_inj {name name' : String} {body body' : Body} (hname : IsToken name)
    (hname' : IsToken name') (hbody : body.Readable) (hbody' : body'.Readable)
    (h : body.lines name = body'.lines name') : name = name' ∧ body.Alike body' := by
  have hkind : body.kind = body'.kind := by rw [← kindOf_lines name, h, kindOf_lines]
  cases body with
  | encodeMethod =>
    cases body' with
    | encodeMethod => exact encodeMethod_inj hname hname' hbody hbody' h
    | _ => cases hkind
  | encodeHeader =>
    cases body' with
    | encodeHeader => exact encodeHeader_inj hname hname' hbody hbody' h
    | _ => cases hkind
  | decodeMethod =>
    cases body' with
    | decodeMethod => exact decodeMethod_inj hname hname' hbody hbody' h
    | _ => cases hkind
  | decodeHeader =>
    cases body' with
    | decodeHeader => exact decodeHeader_inj hname hname' hbody hbody' h
    | _ => cases hkind
  | dispatchMethod =>
    cases body' with
    | dispatchMethod => exact dispatchMethod_inj hname hname' hbody hbody' h
    | _ => cases hkind
  | dispatchHeader =>
    cases body' with
    | dispatchHeader => exact dispatchHeader_inj hname hname' hbody hbody' h
    | _ => cases hkind

/-! ## Texts -/

section FlushLines

variable {name : String} (hname : IsToken name)
include hname

/-- The lines of an encoder of methods: its values are flush if its fields are readable. -/
theorem flush_encodeMethod {argsType : String} {classId methodId : UInt16}
    {fields : List EncodeField}
    (hbody : (Body.encodeMethod argsType classId methodId fields).Readable) :
    ∀ line ∈ (Body.encodeMethod argsType classId methodId fields).lines name, Flush line.text := by
  obtain ⟨htype, hfields⟩ := hbody
  have hparameters : OneLine (parameter (!fields.isEmpty) "args" ++ ": &" ++ argsType) :=
    ((isToken_parameter (by decide) _).flush.append (by decide)).append htype.oneLine |>.oneLine
  have hfirst := flush_signature hname hparameters (by decide : OneLine "Vec<u8>")
  have hvalues : ∀ line ∈ valueListLines "wire::write_fields" (fields.map (encodeExpr "args")),
      Flush line.text :=
    flush_valueListLines (by decide) <| List.forall_mem_map.2 fun f hf =>
      flush_encodeExpr (by decide) (hfields f hf).ident
  simp only [Body.lines, List.forall_mem_append, List.forall_mem_cons]
  exact ⟨⟨⟨hfirst, by decide, flush_writeShortLine _, flush_writeShortLine _,
    List.forall_mem_nil _⟩, hvalues⟩, by decide, by decide, List.forall_mem_nil _⟩

/-- The lines of an encoder of headers, in front of whose properties stands the size of the body. -/
theorem flush_encodeHeader {propertiesType : String} {classId : UInt16} {fields : List EncodeField}
    (hbody : (Body.encodeHeader propertiesType classId fields).Readable) :
    ∀ line ∈ (Body.encodeHeader propertiesType classId fields).lines name, Flush line.text := by
  obtain ⟨htype, hfields⟩ := hbody
  have hsize : Flush ("body_size: u64, " ++ parameter (!fields.isEmpty) "properties") :=
    (by decide : Flush "body_size: u64, ").append (isToken_parameter (by decide) _).oneLine
  have hparameters := ((hsize.append (by decide : OneLine ": &")).append htype.oneLine).oneLine
  have hfirst := flush_signature hname hparameters (by decide : OneLine "Vec<u8>")
  have hvalues : ∀ line ∈ valueListLines "wire::write_optional_fields" (fields.map optionalExpr),
      Flush line.text :=
    flush_valueListLines (by decide) <| List.forall_mem_map.2 fun f hf =>
      flush_optionalExpr (hfields f hf).1
  simp only [Body.lines, List.forall_mem_append, List.forall_mem_cons]
  exact ⟨⟨⟨hfirst, by decide, flush_writeShortLine _, by decide, by decide,
    List.forall_mem_nil _⟩, hvalues⟩, by decide, by decide, List.forall_mem_nil _⟩

/-- The lines of a decoder of methods, whether it has fields or none. -/
theorem flush_decodeMethod {valueType : String} {fields : List DecodeField}
    (hbody : (Body.decodeMethod valueType fields).Readable) :
    ∀ line ∈ (Body.decodeMethod valueType fields).lines name, Flush line.text := by
  obtain ⟨htype, hfields⟩ := hbody
  have hfirst := flush_signature hname (by decide : OneLine "reader: &mut Reader<'_>") htype.oneLine
  have hvalue (back : String) (hback : OneLine back) : Flush ("Ok(" ++ valueType ++ back) :=
    .append (.append (by decide) htype.oneLine) hback
  have hempty : ∀ line ∈ block 1 ["reader.read_fields(&[])?;", "Ok(" ++ valueType ++ " \x7b\x7d)"],
      Flush line.text :=
    flush_block (List.forall_mem_cons.2 ⟨by decide,
      List.forall_mem_singleton.2 (hvalue _ (by decide))⟩)
  have hopen : ∀ line ∈ [Line.mk 1 ("Ok(" ++ valueType ++ " \x7b")], Flush line.text :=
    List.forall_mem_singleton.2 (hvalue _ (by decide))
  rw [lines_decodeMethod, List.forall_mem_cons, List.forall_mem_append]
  refine ⟨hfirst, ?_, by decide⟩
  exact flush_readLines (by decide) (by decide) hempty hopen (by decide) hfields

/-- The lines of a decoder of headers, whether it has properties or none. -/
theorem flush_decodeHeader {headerType propertiesType : String} {fields : List DecodeField}
    (hbody : (Body.decodeHeader headerType propertiesType fields).Readable) :
    ∀ line ∈ (Body.decodeHeader headerType propertiesType fields).lines name, Flush line.text := by
  obtain ⟨hheader, hproperties, hfields⟩ := hbody
  have hfirst :=
    flush_signature hname (by decide : OneLine "reader: &mut Reader<'_>") hheader.oneLine
  have hopen : Flush ("Ok(" ++ headerType ++ " \x7b") :=
    .append (.append (by decide) hheader.oneLine) (by decide)
  have hinner (back : String) (hback : OneLine back) :
      Flush ("properties: " ++ propertiesType ++ back) :=
    .append (.append (by decide) hproperties.oneLine) hback
  rw [lines_decodeHeader, List.forall_mem_cons, List.forall_mem_append, List.forall_mem_append]
  refine ⟨hfirst, by decide, flush_readLines (by decide) (by decide) ?empty ?opened (by decide)
    hfields, by decide⟩
  case empty =>
    simp only [List.forall_mem_cons]
    exact ⟨by decide, hopen, by decide, hinner _ (by decide), List.forall_mem_nil _⟩
  case opened =>
    simp only [List.forall_mem_cons]
    exact ⟨hopen, by decide, hinner _ (by decide), List.forall_mem_nil _⟩

/-- The lines of the dispatcher of methods: those of its classes, between fixed ones. -/
theorem flush_dispatchMethod {union : String} {classes : List ClassRoute}
    (hbody : (Body.dispatchMethod union classes).Readable) :
    ∀ line ∈ (Body.dispatchMethod union classes).lines name, Flush line.text := by
  obtain ⟨hunion, hclasses⟩ := hbody
  have hfirst := flush_signature hname (by decide : OneLine "bytes: &[u8]") hunion.oneLine
  simp only [Body.lines, List.forall_mem_append, List.forall_mem_flatMap]
  exact ⟨⟨⟨⟨List.forall_mem_singleton.2 hfirst, by decide⟩, by decide⟩,
    fun c hc => c.flush_lines hunion (hclasses c hc)⟩, by decide⟩

/-- The lines of the dispatcher of headers: one for each route, between fixed ones. -/
theorem flush_dispatchHeader {union : String} {routes : List Route}
    (hbody : (Body.dispatchHeader union routes).Readable) :
    ∀ line ∈ (Body.dispatchHeader union routes).lines name, Flush line.text := by
  obtain ⟨hunion, hroutes⟩ := hbody
  have hfirst := flush_signature hname (by decide : OneLine "bytes: &[u8]") hunion.oneLine
  have hblock : ∀ line ∈ block 2 (routes.map (Route.text union)), Flush line.text :=
    flush_block (List.forall_mem_map.2 fun r hr => flush_text hunion (hroutes r hr))
  simp only [Body.lines, List.forall_mem_append]
  exact ⟨⟨⟨⟨List.forall_mem_singleton.2 hfirst, by decide⟩, by decide⟩, hblock⟩, by decide⟩

/-- **The lines of a body are flush.** -/
theorem Body.flush_lines {body : Body} (hbody : body.Readable) :
    ∀ line ∈ body.lines name, Flush line.text := by
  cases body with
  | encodeMethod => exact flush_encodeMethod hname hbody
  | encodeHeader => exact flush_encodeHeader hname hbody
  | decodeMethod => exact flush_decodeMethod hname hbody
  | decodeHeader => exact flush_decodeHeader hname hbody
  | dispatchMethod => exact flush_dispatchMethod hname hbody
  | dispatchHeader => exact flush_dispatchHeader hname hbody

end FlushLines

/-- A body starts with the first line of its function. -/
theorem exists_lines_eq_cons (name : String) (body : Body) :
    ∃ parameters result rest, body.lines name = signature name parameters result :: rest := by
  cases body with
  | encodeMethod => exact ⟨_, _, _, rfl⟩
  | encodeHeader => exact ⟨_, _, _, rfl⟩
  | decodeMethod => exact ⟨_, _, _, rfl⟩
  | decodeHeader => exact ⟨_, _, _, rfl⟩
  | dispatchMethod => exact ⟨_, _, _, rfl⟩
  | dispatchHeader => exact ⟨_, _, _, rfl⟩

namespace Function

variable {f g : Function}

/-- No line of a readable function breaks, or starts with a blank. -/
theorem Readable.flush_lines (hf : f.Readable) :
    ∀ line ∈ (Item.function f).lines, Flush line.text := by
  rw [Item.lines, List.forall_mem_append]
  refine ⟨flush_block (List.forall_mem_map.2 fun remark hremark => ?_),
    Body.flush_lines hf.name hf.body⟩
  exact .append (by decide) (hf.doc remark hremark)

/-- **Two readable functions of one text are alike.** -/
theorem alike_of_render_eq (hf : f.Readable) (hg : g.Readable)
    (h : (Item.function f).render = (Item.function g).render) :
    f.name = g.name ∧ f.body.Alike g.body := by
  -- Remarks start with slashes, and the first line behind them does not.
  have hdoc (f : Function) : (docLines 0 f.doc).all (·.text.toList.head? == some '/') := by
    rw [docLines, block, List.map_map, List.all_map, List.all_eq_true]
    intro remark _
    simp
  have hfirst (f : Function) :
      (f.body.lines f.name).head?.all (!·.text.toList.head? == some '/') := by
    obtain ⟨parameters, result, rest, hlines⟩ := exists_lines_eq_cons f.name f.body
    rw [hlines]
    simp [signature]
  have hlines := renderLines_inj hf.flush_lines hg.flush_lines h
  obtain ⟨-, hbody⟩ := append_inj_of_all (hdoc f) (hdoc g) (hfirst f) (hfirst g) hlines
  exact Body.lines_inj hf.name hg.name hf.body hg.body hbody

end Function

end FrameSchema.Bindings
