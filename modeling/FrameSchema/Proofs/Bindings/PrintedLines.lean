import FrameSchema.Bindings.Source
import FrameSchema.Proofs.Bindings.PrintedExpressions

/-!
# Proofs/Bindings/PrintedLines — what the lines of functions are read back to

A text of lines that are flush with their indentation has these lines and no others
(`renderLines_inj`).  Within a line, a name or a number ends at the fixed text behind it.  Among
lines, those of a list lie deeper than the line that closes it, and so do the methods of a class; so
lists are cut out by depth, whatever comes behind them (`typeListLines_append_inj`, `classes_inj`).
-/

namespace FrameSchema.Bindings

open Text (IsToken EndsToken OneLine Flush append_inj_of_all)

/-! ## Lines of a text -/

/-- A line is its indentation, its text and a line feed, and then the others follow. -/
theorem toList_renderLines_cons (line : Line) (lines : List Line) :
    (renderLines (line :: lines)).toList = List.replicate (4 * line.depth) ' ' ++
      (line.text.toList ++ '\n' :: (renderLines lines).toList) := by
  rw [renderLines, List.map_cons, String.join_cons, Line.render]
  simp only [String.toList_append, String.toList_ofList, List.append_assoc]
  rfl

/-- **A text has no other lines**, if these are flush. -/
theorem renderLines_inj : ∀ {lines lines' : List Line}, (∀ line ∈ lines, Flush line.text) →
    (∀ line ∈ lines', Flush line.text) → renderLines lines = renderLines lines' → lines = lines'
  | [], [], _, _, _ => rfl
  | [], line :: lines, _, _, h => by
      have hchars := toList_renderLines_cons line lines
      rw [← h] at hchars
      simp [renderLines] at hchars
  | line :: lines, [], _, _, h => by
      have hchars := toList_renderLines_cons line lines
      rw [h] at hchars
      simp [renderLines] at hchars
  | line :: lines, line' :: lines', hflush, hflush', h => by
      rw [List.forall_mem_cons] at hflush hflush'
      have hchars := congrArg String.toList h
      rw [toList_renderLines_cons, toList_renderLines_cons] at hchars
      have hblank (line : Line) (rest : List Char) (hline : Flush line.text) :
          (line.text.toList ++ rest).head?.all (!· == ' ') :=
        Text.all_of_any (Text.any_head?_append hline.head rest)
      have hfeed (line : Line) (hline : Flush line.text) : line.text.toList.all (· != '\n') :=
        List.all_eq_true.2 fun c hc => bne_iff_ne.2 fun heq => hline.oneLine (heq ▸ hc)
      obtain ⟨hblanks, hbehind⟩ := append_inj_of_all (p := (· == ' ')) (by simp) (by simp)
        (hblank _ _ hflush.1) (hblank _ _ hflush'.1) hchars
      obtain ⟨htext, hrest⟩ := append_inj_of_all (p := (· != '\n')) (hfeed _ hflush.1)
        (hfeed _ hflush'.1) (by simp) (by simp) hbehind
      have hdepth : 4 * line.depth = 4 * line'.depth := by
        simpa using congrArg List.length hblanks
      obtain ⟨depth, text⟩ := line
      obtain ⟨depth', text'⟩ := line'
      obtain rfl : depth = depth' := Nat.mul_left_cancel (by decide) hdepth
      obtain rfl : text = text' := String.toList_inj.1 htext
      rw [renderLines_inj hflush.2 hflush'.2 (String.toList_inj.1 (List.cons.inj hrest).2)]

/-- The lines of a block are flush if their texts are. -/
theorem flush_block {depth : Nat} {texts : List String} (h : ∀ text ∈ texts, Flush text) :
    ∀ line ∈ block depth texts, Flush line.text :=
  List.forall_mem_map.2 h

/-! ## First lines -/

section Signature

variable {name name' : String} (hname : IsToken name) (hname' : IsToken name')
include hname hname'

/-- The name stands in front of the parameters. -/
theorem signature_inj {parameters parameters' result result' : String}
    (h : signature name parameters result = signature name' parameters' result') :
    name = name' ∧ parameters ++ (") -> Result<" ++ (result ++ ", WireError> \x7b"))
      = parameters' ++ (") -> Result<" ++ (result' ++ ", WireError> \x7b")) := by
  have htext := congrArg Line.text h
  simp only [signature, String.append_assoc, String.append_right_inj] at htext
  obtain ⟨heq, hbehind⟩ := hname.append_inj hname' (.append (by decide) _) (.append (by decide) _)
    htext
  exact ⟨heq, (String.append_right_inj "(").1 hbehind⟩

/-- The result of functions with the same parameters. -/
theorem signature_result_inj {parameters result result' : String} (hresult : IsToken result)
    (hresult' : IsToken result')
    (h : signature name parameters result = signature name' parameters result') :
    name = name' ∧ result = result' := by
  obtain ⟨heq, hbehind⟩ := signature_inj hname hname' h
  simp only [String.append_right_inj] at hbehind
  exact ⟨heq, (hresult.append_inj hresult' (by decide) (by decide) hbehind).1⟩

/-- The type of what functions with the same result write, whether or not they use it. -/
theorem signature_owner_inj {front owner owner' type type' result : String}
    (howner : IsToken owner) (howner' : IsToken owner') (htype : IsToken type)
    (htype' : IsToken type') (h : signature name (front ++ owner ++ ": &" ++ type) result
      = signature name' (front ++ owner' ++ ": &" ++ type') result) :
    name = name' ∧ type = type' := by
  obtain ⟨heq, hbehind⟩ := signature_inj hname hname' h
  simp only [String.append_assoc, String.append_right_inj] at hbehind
  obtain ⟨-, hbehind⟩ := howner.append_inj howner' (.append (by decide) _) (.append (by decide) _)
    hbehind
  exact ⟨heq, (htype.append_inj htype' (.append (by decide) _) (.append (by decide) _)
    ((String.append_right_inj ": &").1 hbehind)).1⟩

end Signature

theorem isToken_parameter {name : String} (hname : IsToken name) (isUsed : Bool) :
    IsToken (parameter isUsed name) := by
  cases isUsed with
  | true => exact hname
  | false => exact (by decide : IsToken "_").append hname.all

/-- A number is told by the line that writes it. -/
theorem writeShortLine_inj {m n : UInt16}
    (h : writeShortLine (toString m.toNat) = writeShortLine (toString n.toNat)) : m = n := by
  have htext := congrArg Line.text h
  simp only [writeShortLine, String.append_right_inj, String.append_left_inj] at htext
  exact UInt16.toNat_inj.1 (Text.toString_inj htext)

/-- The head of a function stands on a line of its own. -/
theorem flush_signature {name parameters result : String} (hname : IsToken name)
    (hparameters : OneLine parameters) (hresult : OneLine result) :
    Flush (signature name parameters result).text :=
  .append (.append (.append (.append (.append (.append (by decide) hname.oneLine) (by decide))
    hparameters) (by decide)) hresult) (by decide)

theorem flush_writeShortLine (n : Nat) : Flush (writeShortLine (toString n)).text :=
  .append (.append (by decide) (Text.isToken_toString n).oneLine) (by decide)

/-! ## Lists of values and of kinds -/

/-- **A list of values is what stands between its brackets**; an empty list has its own line. -/
theorem valueListLines_inj {call : String} {values values' : List String}
    (h : valueListLines call values = valueListLines call values') : values = values' := by
  have hempty (value : String) (values : List String) :
      valueListLines call (value :: values) ≠ valueListLines call [] := by
    intro h
    have htext : call ++ "(" = call ++ "(&mut buf, &[])?;" :=
      congrArg Line.text (List.cons.inj h).1
    exact absurd ((String.append_right_inj call).1 htext) (by decide)
  cases values with
  | nil =>
    cases values' with
    | nil => rfl
    | cons value' values' => exact absurd h.symm (hempty value' values')
  | cons value values =>
    cases values' with
    | nil => exact absurd h (hempty value values)
    | cons value' values' =>
      have hmap := List.append_cancel_left (List.append_cancel_right h)
      refine List.map_injective_iff.2 (fun v w hvw => ?_) hmap
      exact (String.append_left_inj ",").1 (congrArg Line.text hvw)

theorem flush_valueListLines {call : String} {values : List String} (hcall : Flush call)
    (hvalues : ∀ v ∈ values, Flush v) : ∀ line ∈ valueListLines call values, Flush line.text := by
  unfold valueListLines
  split
  · exact List.forall_mem_singleton.2 (hcall.append (by decide))
  · simp only [List.forall_mem_append, List.forall_mem_cons, List.forall_mem_map,
      List.not_mem_nil, false_imp_iff, implies_true, and_true]
    exact ⟨⟨⟨hcall.append (by decide), by decide, by decide⟩,
      fun v hv => (hvalues v hv).append (by decide)⟩, by decide, by decide⟩

/-- **A list of kinds is what lies deeper than its end**, whatever comes behind it. -/
theorem typeListLines_append_inj {call : String} {fields fields' : List DecodeField}
    {rest rest' : List Line}
    (h : typeListLines call fields ++ rest = typeListLines call fields' ++ rest') :
    fields.map (·.primitive) = fields'.map (·.primitive) ∧ rest = rest' := by
  simp only [typeListLines, List.append_assoc, List.cons_append, List.nil_append, List.cons.injEq,
    true_and] at h
  obtain ⟨htypes, hrest⟩ := append_inj_of_all (p := (·.depth == 2)) (by simp) (by simp) rfl rfl h
  refine ⟨forall₂_eq_iff.1 (forall₂_of_map_eq (fun d _ d' _ hline => ?_) htypes),
    (List.cons.inj hrest).2⟩
  have htext := congrArg Line.text hline
  simp only [String.append_assoc, String.append_right_inj, String.append_left_inj] at htext
  exact variant_injective htext

/-- The identifiers of a list of assignments, one a line. -/
theorem idents_inj {depth : Nat} {fields fields' : List DecodeField} {taken : String}
    (h : fields.map (fun d => (⟨depth, d.ident ++ taken⟩ : Line))
      = fields'.map fun d => ⟨depth, d.ident ++ taken⟩) :
    fields.map (·.ident) = fields'.map (·.ident) :=
  forall₂_eq_iff.1 <| forall₂_of_map_eq (fun _ _ _ _ hline =>
    (String.append_left_inj taken).1 (congrArg Line.text hline)) h

/-- Fields to be read are equal if their kinds and their identifiers are. -/
theorem decodeFields_eq : ∀ {fields fields' : List DecodeField},
    fields.map (·.primitive) = fields'.map (·.primitive) →
      fields.map (·.ident) = fields'.map (·.ident) → fields = fields'
  | [], [], _, _ => rfl
  | ⟨ident, p⟩ :: fields, ⟨ident', p'⟩ :: fields', hkinds, hidents => by
      rw [List.map_cons, List.map_cons, List.cons.injEq] at hkinds hidents
      obtain ⟨rfl, hkinds⟩ := hkinds
      obtain ⟨rfl, hidents⟩ := hidents
      rw [decodeFields_eq hkinds hidents]

theorem flush_typeListLines {call : String} (hcall : OneLine call) (fields : List DecodeField) :
    ∀ line ∈ typeListLines call fields, Flush line.text := by
  simp only [typeListLines, List.forall_mem_append, List.forall_mem_cons, List.forall_mem_map,
    List.not_mem_nil, false_imp_iff, implies_true, and_true]
  exact ⟨⟨.append (.append (by decide) hcall) (by decide),
    fun d _ => .append (.append (by decide) (isToken_variant _).oneLine) (by decide)⟩, by decide⟩

/-! ## Lists that are read -/

/-- A call that reads a list of kinds, and the lines that name the fields one after another; an
empty list is read in its own way. -/
def readLines (call taken : String) (depth : Nat) (empty front back : List Line)
    (fields : List DecodeField) : List Line :=
  if fields.isEmpty then empty
  else typeListLines call fields ++
    (front ++ (fields.map (fun d => ⟨depth, d.ident ++ taken⟩) ++ back))

/-- **The fields are told by their kinds and by their names**, one list behind the other. -/
theorem readLines_append_inj {call taken : String} {depth : Nat} {first first' : Line}
    {empty empty' front front' back rest : List Line} {fields fields' : List DecodeField}
    (hfirst : first.text ≠ "let mut fields = " ++ call ++ "(&[")
    (hfirst' : first'.text ≠ "let mut fields = " ++ call ++ "(&[")
    (hlength : front.length = front'.length)
    (h : readLines call taken depth (first :: empty) front back fields ++ rest
      = readLines call taken depth (first' :: empty') front' back fields' ++ rest) :
    fields = fields' ∧ if fields.isEmpty then empty = empty' else front = front' := by
  cases fields with
  | nil =>
    cases fields' with
    | nil => exact ⟨rfl, (List.cons.inj (List.append_cancel_right h)).2⟩
    | cons d' fields' => exact absurd (congrArg Line.text (List.cons.inj h).1) hfirst
  | cons d fields =>
    cases fields' with
    | nil => exact absurd (congrArg Line.text (List.cons.inj h).1).symm hfirst'
    | cons d' fields' =>
      have hall := List.append_cancel_right h
      obtain ⟨hkinds, hbehind⟩ := typeListLines_append_inj hall
      obtain ⟨hfront, hidents⟩ := List.append_inj hbehind hlength
      exact ⟨decodeFields_eq hkinds (idents_inj (List.append_cancel_right hidents)), hfront⟩

/-- What reads some fields is flush if all that it is put together from is. -/
theorem flush_readLines {call taken : String} {depth : Nat} {empty front back : List Line}
    {fields : List DecodeField} (hcall : OneLine call) (htaken : OneLine taken)
    (hempty : ∀ line ∈ empty, Flush line.text) (hfront : ∀ line ∈ front, Flush line.text)
    (hback : ∀ line ∈ back, Flush line.text) (hfields : ∀ d ∈ fields, IsToken d.ident) :
    ∀ line ∈ readLines call taken depth empty front back fields, Flush line.text := by
  unfold readLines
  split
  · exact hempty
  · simp only [List.forall_mem_append, List.forall_mem_map]
    exact ⟨flush_typeListLines hcall fields, hfront, fun d hd => (hfields d hd).flush.append htaken,
      hback⟩

/-! ## Routes -/

/-- What a route names are tokens. -/
structure Route.Readable (r : Route) : Prop where
  decoder : IsToken r.decoder
  variant : IsToken r.variant

/-- **A route is read off its line.** -/
theorem Route.text_inj {union : String} {r r' : Route} (hr : r.Readable) (hr' : r'.Readable)
    (h : r.text union = r'.text union) : r = r' := by
  simp only [Route.text, String.append_assoc] at h
  obtain ⟨hid, h₁⟩ := (Text.isToken_toString _).append_inj (Text.isToken_toString _)
    (.append (by decide) _) (.append (by decide) _) h
  simp only [String.append_right_inj] at h₁
  obtain ⟨hvariant, h₂⟩ := hr.variant.append_inj hr'.variant (.append (by decide) _)
    (.append (by decide) _) h₁
  obtain ⟨hdecoder, -⟩ := hr.decoder.append_inj hr'.decoder (by decide) (by decide)
    ((String.append_right_inj "(").1 h₂)
  obtain ⟨id, decoder, variant⟩ := r
  obtain ⟨id', decoder', variant'⟩ := r'
  obtain rfl : id = id' := UInt16.toNat_inj.1 (Text.toString_inj hid)
  obtain rfl : decoder = decoder' := hdecoder
  obtain rfl : variant = variant' := hvariant
  rfl

theorem flush_text {union : String} {r : Route} (hunion : IsToken union) (hr : r.Readable) :
    Flush (r.text union) := by
  refine .append (.append (.append (.append (.append (.append (.append
    (Text.isToken_toString _).flush ?_) hunion.oneLine) ?_) hr.variant.oneLine) ?_)
    hr.decoder.oneLine) ?_
  · decide
  · decide
  · decide
  · decide

/-- **Routes are told by their lines**, one by one. -/
theorem routes_inj {depth : Nat} {union : String} {routes routes' : List Route}
    (hroutes : ∀ r ∈ routes, r.Readable) (hroutes' : ∀ r ∈ routes', r.Readable)
    (h : block depth (routes.map (Route.text union))
      = block depth (routes'.map (Route.text union))) : routes = routes' := by
  rw [block, block, List.map_map, List.map_map] at h
  exact List.forall₂_eq_eq_eq ▸ forall₂_of_map_eq (fun r hr r' hr' hline =>
    Route.text_inj (hroutes r hr) (hroutes' r' hr') (congrArg Line.text hline)) h

namespace ClassRoute

/-- What follows the number in the first line of a class. -/
def arm (c : ClassRoute) : String :=
  if c.methods.isEmpty then " => Err(WireError::UnknownMethod(class_id, method_id)),"
  else " => match method_id \x7b"

/-- What follows the first line of a class. -/
def inner (union : String) (c : ClassRoute) : List Line :=
  if c.methods.isEmpty then []
  else block 3 (c.methods.map (Route.text union)) ++ [⟨3, unknownMethodText "_"⟩, ⟨2, "\x7d,"⟩]

/-- The lines of a class are one that has its number, and those inside. -/
theorem lines_eq (union : String) (c : ClassRoute) :
    c.lines union = ⟨2, toString c.classId.toNat ++ c.arm⟩ :: c.inner union := by
  unfold lines arm inner
  split
  · rfl
  · simp [block]

theorem endsToken_arm (c : ClassRoute) : EndsToken c.arm := by
  unfold arm
  split
  · decide
  · decide

/-- The line of a class tells whether it has methods. -/
theorem isEmpty_eq_of_arm_eq {c c' : ClassRoute} (h : c.arm = c'.arm) :
    c.methods.isEmpty = c'.methods.isEmpty := by
  unfold arm at h
  cases hempty : c.methods.isEmpty <;> cases hempty' : c'.methods.isEmpty <;>
    simp [hempty, hempty'] at h ⊢

/-- **The methods of a class lie deeper than what comes behind the class.** -/
theorem inner_append_inj {union : String} {c c' : ClassRoute} {rest rest' : List Line}
    (hc : ∀ r ∈ c.methods, r.Readable) (hc' : ∀ r ∈ c'.methods, r.Readable)
    (hempty : c.methods.isEmpty = c'.methods.isEmpty)
    (h : c.inner union ++ rest = c'.inner union ++ rest') :
    c.methods = c'.methods ∧ rest = rest' := by
  unfold inner at h
  rw [hempty] at h
  split at h
  · rename_i hnil
    rw [List.isEmpty_iff.1 hnil, List.isEmpty_iff.1 (hempty.trans hnil)]
    exact ⟨rfl, h⟩
  · have hcut (c : ClassRoute) (rest : List Line) :
        block 3 (c.methods.map (Route.text union)) ++ [⟨3, unknownMethodText "_"⟩, ⟨2, "\x7d,"⟩] ++
          rest = block 3 (c.methods.map (Route.text union)) ++ [⟨3, unknownMethodText "_"⟩] ++
            ⟨2, "\x7d,"⟩ :: rest := by
      simp
    rw [hcut, hcut] at h
    obtain ⟨hroutes, hrest⟩ :=
      append_inj_of_all (p := (·.depth == 3)) (by simp [block]) (by simp [block]) rfl rfl h
    exact ⟨routes_inj hc hc' (List.append_cancel_right hroutes), (List.cons.inj hrest).2⟩

theorem flush_lines {union : String} {c : ClassRoute} (hunion : IsToken union)
    (hc : ∀ r ∈ c.methods, r.Readable) : ∀ line ∈ c.lines union, Flush line.text := by
  have harm : OneLine c.arm := by
    unfold arm
    split
    · decide
    · decide
  rw [lines_eq, List.forall_mem_cons]
  refine ⟨(Text.isToken_toString _).flush.append harm, ?_⟩
  unfold inner
  split
  · exact List.forall_mem_nil _
  · rw [List.forall_mem_append]
    exact ⟨flush_block (List.forall_mem_map.2 fun r hr => flush_text hunion (hc r hr)), by decide⟩

end ClassRoute

/-- A number is told from the underscore that stands for any. -/
theorem toString_ne_underscore (n : Nat) : toString n ≠ "_" := by
  intro h
  have hmem : '_' ∈ Nat.toDigits 10 n := by
    rw [← Text.toList_toString, h]
    decide
  exact absurd (Nat.isDigit_of_mem_toDigits (by decide) (by decide) hmem) (by decide)

/-- The line of a class is told from the line for all others. -/
theorem flatMap_lines_cons_ne {union : String} (c : ClassRoute) (classes : List ClassRoute) :
    (c :: classes).flatMap (ClassRoute.lines union) ++ unknownClassLines ≠ unknownClassLines := by
  intro h
  rw [List.flatMap_cons, ClassRoute.lines_eq] at h
  have htext : toString c.classId.toNat ++ c.arm
      = "_" ++ " => Err(WireError::UnknownClass(class_id))," :=
    congrArg Line.text (List.cons.inj h).1
  exact toString_ne_underscore _ ((Text.isToken_toString _).append_inj (by decide)
    c.endsToken_arm (by decide) htext).1

/-- **The classes of a dispatcher are read one after another**, up to the line for all others. -/
theorem classes_inj {union : String} : ∀ {classes classes' : List ClassRoute},
    (∀ c ∈ classes, ∀ r ∈ c.methods, r.Readable) → (∀ c ∈ classes', ∀ r ∈ c.methods, r.Readable) →
      classes.flatMap (ClassRoute.lines union) ++ unknownClassLines
        = classes'.flatMap (ClassRoute.lines union) ++ unknownClassLines → classes = classes'
  | [], [], _, _, _ => rfl
  | [], c :: classes, _, _, h => absurd h.symm (flatMap_lines_cons_ne c classes)
  | c :: classes, [], _, _, h => absurd h (flatMap_lines_cons_ne c classes)
  | c :: classes, c' :: classes', hc, hc', h => by
      rw [List.forall_mem_cons] at hc hc'
      simp only [List.flatMap_cons, ClassRoute.lines_eq, List.cons_append, List.append_assoc,
        List.cons.injEq, Line.mk.injEq, true_and] at h
      obtain ⟨hline, hbehind⟩ := h
      obtain ⟨hid, harm⟩ := (Text.isToken_toString _).append_inj (Text.isToken_toString _)
        c.endsToken_arm c'.endsToken_arm hline
      obtain ⟨hmethods, hrest⟩ := ClassRoute.inner_append_inj hc.1 hc'.1
        (ClassRoute.isEmpty_eq_of_arm_eq harm) hbehind
      rw [classes_inj hc.2 hc'.2 hrest]
      obtain ⟨id, methods⟩ := c
      obtain ⟨id', methods'⟩ := c'
      obtain rfl : id = id' := UInt16.toNat_inj.1 (Text.toString_inj hid)
      obtain rfl : methods = methods' := hmethods
      rfl

end FrameSchema.Bindings
