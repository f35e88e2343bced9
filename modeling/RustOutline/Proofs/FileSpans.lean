import RustOutline.Proofs.CommandOutcome
import RustOutline.Proofs.EncodableOutline
import RustOutline.Proofs.ModulePaths
import RustOutline.Proofs.TextCuts

/-! What the spans of a printed outline mean in the file. They count the bytes of the text as it was
read, with its newlines unified; so they index the file up to its first carriage return, and no
further. -/
namespace RustOutline

namespace Text

theorem unifyNewlines_append {before : List Char} (h : '\r' ∉ before) (after : List Char) :
    unifyNewlines (before ++ after) = before ++ unifyNewlines after := by
  induction before with
  | nil => rfl
  | cons c before ih =>
    simp only [List.mem_cons, not_or] at h
    obtain ⟨hc, hbefore⟩ := h
    rw [List.cons_append, unifyNewlines, ih hbefore, if_neg (Ne.symm hc), List.cons_append]
    intro _ hreturn
    exact absurd hreturn.symm hc

theorem unifyNewlines_of_not_mem {cs : List Char} (h : '\r' ∉ cs) : unifyNewlines cs = cs := by
  simpa [unifyNewlines] using unifyNewlines_append h []

theorem unifyNewlines_return (after : List Char) : ∃ rest,
    unifyNewlines ('\r' :: after) = '\n' :: rest := by
  by_cases h : ∃ rest, after = '\n' :: rest
  · obtain ⟨rest, rfl⟩ := h
    exact ⟨_, rfl⟩
  · refine ⟨unifyNewlines after, ?_⟩
    rw [unifyNewlines, if_pos rfl]
    intro rest _ hrest
    exact h ⟨rest, hrest⟩

theorem mem_unifyNewlines {c : Char} {cs : List Char} (hc : c ≠ '\r') (h : c ∈ cs) :
    c ∈ unifyNewlines cs := by
  fun_induction unifyNewlines cs with
  | case1 => cases h
  | case2 cs ih =>
    have h : c = '\n' ∨ c ∈ cs := by simpa [hc] using h
    exact List.mem_cons.mpr (h.imp_right ih)
  | case3 d cs _ ih =>
    rcases List.mem_cons.mp h with rfl | h
    · simp [hc]
    · exact List.mem_cons_of_mem _ (ih h)

theorem mem_or_of_mem_unifyNewlines {c : Char} {cs : List Char} (h : c ∈ unifyNewlines cs) :
    c ∈ cs ∨ c = '\n' := by
  fun_induction unifyNewlines cs with
  | case1 => cases h
  | case2 cs ih => grind
  | case3 d cs _ ih => grind

end Text

/-- Where a text has a carriage return, its first bytes are not those of the text as it is read. -/
theorem Utf8.decodeChars_take_ne {cs : List Char} (h : '\r' ∈ cs) :
    decodeChars ((encodeChars cs).take (encodeChars (Text.unifyNewlines cs)).length) ≠
      Text.unifyNewlines cs := by
  obtain ⟨before, after, rfl, hbefore⟩ := List.eq_append_cons_of_mem h
  obtain ⟨rest, hrest⟩ := Text.unifyNewlines_return after
  rw [Text.unifyNewlines_append hbefore, hrest]
  have hcs : encodeChars (before ++ '\r' :: after) =
      encodeChars (before ++ ['\r']) ++ encodeChars after := by
    rw [← encodeChars_append, List.append_assoc, List.singleton_append]
  have hlength : (encodeChars (before ++ ['\r'])).length ≤
      (encodeChars (before ++ '\n' :: rest)).length := by
    have hnewline : encodeChars ('\n' :: rest) = encodeChars ['\n'] ++ encodeChars rest := by
      rw [← encodeChars_append, List.singleton_append]
    have hone : (encodeChars ['\r']).length = 1 ∧ (encodeChars ['\n']).length = 1 := by decide
    rw [encodeChars_append, encodeChars_append, hnewline]
    simp only [List.length_append, hone]
    omega
  rw [hcs, List.take_append, List.take_of_length_le hlength, decodeChars_encodeChars_append,
    List.append_assoc]
  intro heq
  have hheads := List.append_cancel_left heq
  cases hheads

/-- The raw text is what the file has between the ends of the span. -/
def Item.Indexes (bytes : Utf8.Bytes) (item : Item) : Prop :=
  item.rawText = Utf8.decode (slice bytes item.span.start item.span.stop)

theorem Scope.At.contains {file scope : Scope} {names : List String} (h : file.At names scope) :
    file.Contains scope := by
  induction h with
  | self => exact .self
  | inner _ mem nested ih => exact .inner ih mem nested

theorem Item.ListedIn.of_filter {items : List Item} {keep : Item → Bool} {item : Item}
    (h : item.ListedIn (items.filter keep)) : item.ListedIn items := by
  cases h with
  | own mem => exact .own (List.mem_filter.mp mem).1
  | method mem details declared => exact .method (List.mem_filter.mp mem).1 details declared

namespace Command

/-- The items that a document holds: those of all modules, or of the whole tree. -/
def Invocation.Shows (i : Invocation) (r : Response) (item : Item) : Prop :=
  if i.modules then ∃ m ∈ flattenModules r.file, item.ListedIn m.items
  else ∃ scope, r.file.Contains scope ∧ item.ListedIn scope.items

/-- Records of modules show nothing that the tree does not. -/
theorem Invocation.Shows.exists_scope {i : Invocation} {r : Response} {item : Item}
    (h : i.Shows r item) : ∃ scope, r.file.Contains scope ∧ item.ListedIn scope.items := by
  unfold Shows at h
  split at h
  · obtain ⟨m, hm, hitem⟩ := h
    obtain ⟨_, _, describes, _, _, _⟩ := ModuleSummary.exists_describes hm
    cases describes with
    | root _ _ items _ =>
      rw [items] at hitem
      exact ⟨_, .self, hitem.of_filter⟩
    | module outer mem nested _ _ items _ =>
      rw [items] at hitem
      exact ⟨_, .inner outer.contains mem nested, hitem.of_filter⟩
  · exact h

/-- A call that prints the outline of a file with these bytes, from a tree of the text that it
reads there. -/
structure Printout (bytes : Utf8.Bytes) where
  surroundings : Surroundings
  process : Process
  call : Invocation
  args : List String
  settings : Settings
  text : String
  ms : Int
  output : String
  spelled : call.Spelled args
  reads : call.Reads surroundings settings bytes text
  fits : (surroundings.parse text).TreeOf text
  encodes : call.document surroundings (call.response surroundings settings text ms) = .ok output
  printed : (run surroundings process args).stdout = output ++ "\n"

namespace Printout
variable {bytes : Utf8.Bytes} {content : String}

def response (o : Printout bytes) : Response :=
  o.call.response o.surroundings o.settings o.text o.ms

/-- The items that were printed. -/
def Shows (o : Printout bytes) (item : Item) : Prop := o.call.Shows o.response item

theorem text_eq (o : Printout bytes) (valid : Utf8.decodeStrict bytes = .ok content) :
    o.text = String.ofList (Text.unifyNewlines content.toList) := by
  obtain ⟨other, hother, htext⟩ := o.reads.decodes
  rw [htext, Except.ok.inj (hother.symm.trans valid)]

/-- Behind every printed item there is a node of the tree. -/
theorem Shows.exists_stands {o : Printout bytes} {item : Item} (h : o.Shows item) :
    ∃ n ∈ (o.surroundings.parse o.text).preorder, item.Stands (Utf8.encode o.text) n := by
  obtain ⟨scope, hscope, hitem⟩ := Invocation.Shows.exists_scope h
  exact RustOutline.exists_stands hscope hitem

/-- An item that ends before any carriage return indexes the file. -/
theorem indexes_of_le {o : Printout bytes} {item : Item} {before after : List Char}
    (valid : Utf8.decodeStrict bytes = .ok content) (h : o.Shows item)
    (hcontent : content.toList = before ++ after) (hbefore : '\r' ∉ before)
    (hstop : item.span.stop ≤ (Utf8.encodeChars before).length) : item.Indexes bytes := by
  obtain ⟨n, hn, stands⟩ := h.exists_stands
  have htext : Utf8.encode o.text = Utf8.encodeChars before ++
      Utf8.encodeChars (Text.unifyNewlines after) := by
    rw [o.text_eq valid, hcontent, Text.unifyNewlines_append hbefore, Utf8.encode,
      String.toList_ofList, Utf8.encodeChars_append]
  have hbytes : bytes = Utf8.encodeChars before ++ Utf8.encodeChars after := by
    rw [Utf8.decodeStrict_eq_ok.mp valid, Utf8.encode, hcontent, Utf8.encodeChars_append]
  have hspan : n.stop = item.span.stop ∧ n.start = item.span.start := by
    rw [stands.span]
    exact ⟨rfl, rfl⟩
  rw [Item.Indexes, stands.rawText, Node.text, Node.bytes, htext, hbytes, hspan.1, hspan.2,
    slice_append_left hstop, slice_append_left hstop]

theorem indexes_of_not_mem {o : Printout bytes} {item : Item}
    (valid : Utf8.decodeStrict bytes = .ok content) (h : o.Shows item)
    (hreturn : '\r' ∉ content.toList) : item.Indexes bytes := by
  obtain ⟨n, hn, stands⟩ := h.exists_stands
  have hstop := (o.fits.boundaries n hn).2.le_length
  rw [o.text_eq valid, String.toList_ofList, Text.unifyNewlines_of_not_mem hreturn] at hstop
  refine indexes_of_le valid h (List.append_nil _).symm hreturn ?_
  rw [stands.span]
  exact hstop

/-- An item indexes the file if no carriage return comes before its end. -/
theorem indexes_of_clean (o : Printout bytes) {item : Item}
    (valid : Utf8.decodeStrict bytes = .ok content) (h : o.Shows item)
    (hclean : 0x0D ∉ bytes.take item.span.stop) : item.Indexes bytes := by
  by_cases hreturn : '\r' ∈ content.toList
  · obtain ⟨before, after, hcontent, hbefore⟩ := List.eq_append_cons_of_mem hreturn
    refine indexes_of_le valid h hcontent hbefore (Nat.le_of_not_lt fun hlt => hclean ?_)
    have hbytes : bytes = Utf8.encodeChars before ++ 0x0D :: Utf8.encodeChars after := by
      rw [Utf8.decodeStrict_eq_ok.mp valid, Utf8.encode, hcontent, Utf8.encodeChars_append]
      rfl
    have hsucc : item.span.stop - (Utf8.encodeChars before).length =
        item.span.stop - (Utf8.encodeChars before).length - 1 + 1 := by omega
    rw [hbytes, List.take_append, hsucc, List.take_succ_cons]
    simp
  · exact indexes_of_not_mem valid h hreturn

theorem not_shows_of_blank (o : Printout bytes) (valid : Utf8.decodeStrict bytes = .ok content)
    (blank : ∀ c ∈ content.toList, Text.isBlank c) (item : Item) : ¬ o.Shows item := by
  intro h
  obtain ⟨n, hn, stands⟩ := h.exists_stands
  have htext : ∀ c ∈ o.text.toList, Text.isBlank c := by
    intro c hc
    rw [o.text_eq valid, String.toList_ofList] at hc
    rcases Text.mem_or_of_mem_unifyNewlines hc with hc | rfl
    · exact blank c hc
    · decide
  obtain ⟨role, named⟩ := stands.named
  simp [o.fits.fieldText?_eq_none hn htext role] at named

section WholeFile

def wholeFunction (text : String) (start stop : Nat) : Node :=
  let source := Utf8.encode text
  .ofRange source "function_item" none 0 source.length [
    .ofRange source "identifier" (some "name") start stop []]

def wholeFile (text : String) (start stop : Nat) : Node :=
  let source := Utf8.encode text
  .ofRange source "source_file" none 0 source.length [wholeFunction text start stop]

section Tree
variable {text : String} {start stop : Nat}

theorem treeOf_wholeFile (hstart : Utf8.IsBoundary text.toList start)
    (hstop : Utf8.IsBoundary text.toList stop) (h : start ≤ stop) :
    (wholeFile text start stop).TreeOf text := by
  have hfirst : Utf8.IsBoundary text.toList 0 := Utf8.isBoundary_append [] text.toList
  have hlast : Utf8.IsBoundary text.toList (Utf8.encode text).length := by
    have hall := Utf8.isBoundary_append text.toList []
    rwa [List.append_nil] at hall
  have hlength : stop ≤ (Utf8.encode text).length := hstop.le_length
  have hnodes : (wholeFile text start stop).preorder = [wholeFile text start stop,
      wholeFunction text start stop,
      .ofRange (Utf8.encode text) "identifier" (some "name") start stop []] := rfl
  constructor
  · intro n hn
    rw [hnodes] at hn
    simp only [List.mem_cons, List.not_mem_nil, or_false] at hn
    rcases hn with rfl | rfl | rfl
    · refine ⟨Nat.zero_le _, fun c hc => ?_, by simp [wholeFile, Node.ofRange]⟩
      obtain rfl := List.mem_singleton.mp hc
      exact ⟨Nat.le_refl _, Nat.le_refl _⟩
    · refine ⟨Nat.zero_le _, fun c hc => ?_, by simp [wholeFunction, Node.ofRange]⟩
      obtain rfl := List.mem_singleton.mp hc
      exact ⟨Nat.zero_le _, hlength⟩
    · exact ⟨h, fun c hc => absurd hc List.not_mem_nil, by simp [Node.ofRange]⟩
  · intro n hn
    rw [hnodes] at hn
    simp only [List.mem_cons, List.not_mem_nil, or_false] at hn
    rcases hn with rfl | rfl | rfl
    · exact ⟨hfirst, hlast⟩
    · exact ⟨hfirst, hlast⟩
    · exact ⟨hstart, hstop⟩

theorem fieldText?_wholeFunction {c : Char}
    (hslice : slice (Utf8.encode text) start stop = Utf8.encodeChars [c])
    (hblank : Text.isBlank c = false) :
    (wholeFunction text start stop).fieldText? (Utf8.encode text) "name" =
      some (String.singleton c) := by
  let name : Node := .ofRange (Utf8.encode text) "identifier" (some "name") start stop []
  have hchild : (wholeFunction text start stop).child? "name" = some name := rfl
  have htext : name.text (Utf8.encode text) = String.singleton c := by
    change Utf8.decode (slice (Utf8.encode text) start stop) = _
    rw [hslice, Utf8.decode, Utf8.decodeChars_encodeChars]
    simp
  have hstrip : Text.strip (String.singleton c) = String.singleton c := by
    simp [Text.strip, Text.trim, Text.trimStart, Text.trimEnd, hblank]
  have hpresent : name.missing = false := rfl
  simp [Node.fieldText?, hchild, hpresent, htext, hstrip]

theorem exists_mem_wholeFile {name : String}
    (named : (wholeFunction text start stop).fieldText? (Utf8.encode text) "name" = some name)
    (ms : Int) : ∃ item ∈ (extract (Utf8.encode text) (wholeFile text start stop) true ms).file.items,
      item.rawText = text ∧ item.span.start = 0 ∧ item.span.stop = (Utf8.encode text).length := by
  let site : Site := ⟨wholeFunction text start stop, false, []⟩
  let ctx := FileContext.ofFile (Utf8.encode text) true (wholeFile text start stop)
  have hchildren : Site.namedChildren (wholeFile text start stop) = [site] := rfl
  have hmem : site ∈ Site.members (wholeFile text start stop) :=
    Site.mem_members.mpr ⟨site, by simp [hchildren], .inr ⟨rfl, rfl⟩⟩
  have hform : Form.ofKind? site.node.kind = some .function := rfl
  have keeps : ctx.Keeps site := {
    kind := .inr ((Form.isSome_ofKind?_iff _).mp (Option.isSome_of_eq_some hform))
    named := Option.isSome_of_eq_some named
    included := rfl
    loose := fun h => absurd h.1 (by simp [site, wholeFunction, Node.ofRange]) }
  refine ⟨_, FileContext.mem_items.mpr ⟨site, hmem, keeps, .plain hform (by simp) named⟩, ?_, rfl, rfl⟩
  change Utf8.decode (slice (Utf8.encode text) 0 (Utf8.encode text).length) = text
  simp [slice]

end Tree

/-- The encoder of an interpreter that sets no bound to numbers and nesting. -/
def boundless : Encoder := fun indent v => .ok (String.ofList (Json.render indent v))

def wholeFileSurroundings (bytes : Utf8.Bytes) (root : Node) (encode : Encoder) : Surroundings where
  files := .ofNames ["work"] [("a.rs", .file bytes)]
  yaml := Yaml.reader
  homes := { own := "/home/tester" }
  globalPath := "/etc/all.yaml"
  parse _ := root
  encode := encode
  now := "now"
  freshId := "id"

def wholeFileCall : Invocation where
  choice := some true
  path := "a.rs"

variable (bytes : Utf8.Bytes) (root : Node) (encode : Encoder)

theorem load_wholeFile :
    (wholeFileCall.sources (wholeFileSurroundings bytes root encode)).load = .ok {} := by
  let w := wholeFileSurroundings bytes root encode
  have hglobal : readLayer w.yaml w.files "/etc/all.yaml" = .ok [] := by
    rfl
  have hlayers : (wholeFileCall.sources (wholeFileSurroundings bytes root encode)).layers =
      .ok ⟨[], [], [], []⟩ := Sources.layers_eq_ok.mpr ⟨hglobal, rfl, rfl, rfl⟩
  rw [Sources.load_of_merged (Sources.merged_of_layers rfl hlayers)]
  rfl

theorem read_wholeFile : (Invocation.filesFound (wholeFileSurroundings bytes root encode) {}).read
    wholeFileCall.file = .ok bytes := by
  rfl

theorem orderly_wholeFile : wholeFileCall.Orderly (wholeFileSurroundings bytes root encode) {} 0 := by
  have only (other : Settings)
      (h : (wholeFileCall.sources (wholeFileSurroundings bytes root encode)).load = .ok other) :
      other = {} := Except.ok.inj (h.symm.trans (load_wholeFile bytes root encode))
  constructor
  · intro other h
    rw [only other h]
    decide
  · intro other h
    rw [only other h]
    rfl
  · intro other h
    rw [only other h]
    rfl
  · rfl

/-- Any tree of the text of a file is printed, if its outline can be encoded. -/
theorem exists_printout {content text output : String}
    (valid : Utf8.decodeStrict bytes = .ok content)
    (htext : text = String.ofList (Text.unifyNewlines content.toList)) (fits : root.TreeOf text)
    (encodes : (extract (Utf8.encode text) root true 0).document encode none = .ok output) :
    ∃ o : Printout bytes, o.call.modules = false ∧
      o.response = extract (Utf8.encode text) root true 0 := by
  let w := wholeFileSurroundings bytes root encode
  have reads : wholeFileCall.Reads w {} bytes text :=
    ⟨load_wholeFile bytes root encode, read_wholeFile bytes root encode, content, valid, htext⟩
  have settles := Invocation.run_settles_of_load wholeFileCall.spelled_args
    (orderly_wholeFile bytes root encode) reads.loads
  exact ⟨⟨w, {}, wholeFileCall, wholeFileCall.args, {}, text, 0, output, wholeFileCall.spelled_args,
    reads, fits, encodes, settles.printed output (.mk reads encodes)⟩, rfl, rfl⟩

/-- Where a text has a carriage return and anything that can be a name, some printed span is not
one of the file. -/
theorem exists_not_indexes {content : String} {c : Char}
    (valid : Utf8.decodeStrict bytes = .ok content) (hreturn : '\r' ∈ content.toList)
    (hc : c ∈ content.toList) (hblank : Text.isBlank c = false) :
    ∃ o : Printout bytes, ∃ item, o.Shows item ∧ ¬ item.Indexes bytes := by
  have hne : c ≠ '\r' := by
    rintro rfl
    cases hblank
  obtain ⟨x, y, hxy⟩ := List.append_of_mem (Text.mem_unifyNewlines hne hc)
  obtain ⟨text, htext⟩ : ∃ text, text = String.ofList (Text.unifyNewlines content.toList) := ⟨_, rfl⟩
  have hlist : text.toList = Text.unifyNewlines content.toList := by
    rw [htext, String.toList_ofList]
  have hpieces : text.toList = x ++ ([c] ++ y) := by
    rw [hlist, hxy, List.singleton_append]
  have hstart : Utf8.IsBoundary text.toList (Utf8.encodeChars x).length := by
    rw [hpieces]
    exact Utf8.isBoundary_append x _
  have hstop : Utf8.IsBoundary text.toList (Utf8.encodeChars (x ++ [c])).length := by
    rw [hpieces, ← List.append_assoc]
    exact Utf8.isBoundary_append _ y
  have hslice : slice (Utf8.encode text) (Utf8.encodeChars x).length
      (Utf8.encodeChars (x ++ [c])).length = Utf8.encodeChars [c] := by
    rw [Utf8.encode, hpieces, Utf8.encodeChars_append, Utf8.encodeChars_append]
    simp [slice]
  obtain ⟨o, hmodules, hresponse⟩ := exists_printout bytes _ boundless valid htext
    (treeOf_wholeFile hstart hstop (by simp)) rfl
  obtain ⟨item, hitem, hraw, hfirst, hlast⟩ :=
    exists_mem_wholeFile (fieldText?_wholeFunction hslice hblank) 0
  have hshows : o.Shows item := by
    unfold Shows Invocation.Shows
    rw [hmodules, if_neg (by simp), hresponse]
    exact ⟨_, .self, .own hitem⟩
  refine ⟨o, item, hshows, fun hindexes => Utf8.decodeChars_take_ne hreturn ?_⟩
  rw [Item.Indexes, hraw, hfirst, hlast, Utf8.decodeStrict_eq_ok.mp valid] at hindexes
  have hchars := congrArg String.toList hindexes
  rw [Utf8.decode, String.toList_ofList, hlist] at hchars
  simpa [slice, Utf8.encode, hlist] using hchars.symm

end WholeFile

end Printout

/-- The spans that are printed count the bytes of the text as it was read. An item that ends before
the first carriage return of the file indexes it. All items do, whatever tree and options a call
has, only if there is no carriage return, or nothing that could be a name. -/
theorem printed_spans_index_file {bytes : Utf8.Bytes} {content : String}
    (valid : Utf8.decodeStrict bytes = .ok content) :
    (∀ (o : Printout bytes) (item : Item), o.Shows item → 0x0D ∉ bytes.take item.span.stop →
      item.Indexes bytes) ∧
    ((∀ (o : Printout bytes) (item : Item), o.Shows item → item.Indexes bytes) ↔
      '\r' ∉ content.toList ∨ ∀ c ∈ content.toList, Text.isBlank c) := by
  refine ⟨fun o item h => o.indexes_of_clean valid h, fun h => ?_, fun h => ?_⟩
  · by_contra hnot
    push Not at hnot
    obtain ⟨hreturn, c, hc, hblank⟩ := hnot
    obtain ⟨o, item, hshows, hindexes⟩ :=
      Printout.exists_not_indexes bytes valid hreturn hc (by simpa using hblank)
    exact hindexes (h o item hshows)
  · intro o item hshows
    rcases h with hreturn | blank
    · exact Printout.indexes_of_not_mem valid hshows hreturn
    · exact absurd hshows (o.not_shows_of_blank valid blank item)

namespace ReturnedLines

/-- Two functions, in a file whose lines end with a carriage return and a newline. -/
def content : String := "pub fn f() \x7b\x7d\r\n/// d\r\npub fn g() \x7b\x7d\r\n"

def bytes : Utf8.Bytes := Utf8.encode content

def text : String := String.ofList (Text.unifyNewlines content.toList)

private abbrev node := Node.ofRange (Utf8.encode text)
private abbrev token := Node.token (Utf8.encode text)

def function (start : Nat) : Node := node "function_item" none start (start + 13) [
  node "visibility_modifier" none start (start + 3) [token "pub" start (start + 3)],
  token "fn" (start + 4) (start + 6),
  node "identifier" (some "name") (start + 7) (start + 8) [],
  node "parameters" (some "parameters") (start + 8) (start + 10) [
    token "(" (start + 8) (start + 9), token ")" (start + 9) (start + 10)],
  node "block" (some "body") (start + 11) (start + 13) [
    token "\x7b" (start + 11) (start + 12), token "\x7d" (start + 12) (start + 13)]]

def comment : Node := node "line_comment" none 14 20 [
  token "//" 14 16, node "outer_doc_comment_marker" (some "outer") 16 17 [token "/" 16 17],
  node "doc_comment" (some "doc") 17 20 []]

def root : Node := node "source_file" none 0 34 [function 0, comment, function 20]

theorem valid : Utf8.decodeStrict bytes = .ok content := Utf8.decodeStrict_eq_ok.mpr rfl

theorem exists_printout : ∃ o : Printout bytes, ∀ item,
    item ∈ (extract (Utf8.encode text) root true 0).file.items → o.Shows item := by
  have fits : root.TreeOf text := by decide +kernel
  have room : (extract (Utf8.encode text) root true 0).toValue.Fits {} :=
    Value.fits_of_obstacle?_eq_none (by decide +kernel)
  obtain ⟨output, encodes, -⟩ := Response.exists_document _ room none
  obtain ⟨o, hmodules, hresponse⟩ :=
    Printout.exists_printout bytes root (Encoder.standard {}) valid rfl fits encodes
  refine ⟨o, fun item hitem => ?_⟩
  unfold Printout.Shows Invocation.Shows
  rw [hmodules, if_neg (by simp), hresponse]
  exact ⟨_, .self, .own hitem⟩

/-- The second function is printed two bytes before its place. -/
theorem second_line_off : ∃ (o : Printout bytes) (item : Item), o.Shows item ∧
    item.name = "g" ∧ item.span.start = 20 ∧ item.span.stop = 33 ∧
    item.rawText = "pub fn g() \x7b\x7d" ∧
    Utf8.decode (slice bytes 20 33) = "\r\npub fn g() " ∧ ¬ item.Indexes bytes := by
  obtain ⟨o, hshows⟩ := exists_printout
  have hsecond : ∃ item ∈ (extract (Utf8.encode text) root true 0).file.items,
      item.name = "g" ∧ item.span.start = 20 ∧ item.span.stop = 33 ∧
        item.rawText = "pub fn g() \x7b\x7d" := by decide +kernel
  have hslice : Utf8.decode (slice bytes 20 33) = "\r\npub fn g() " := by decide +kernel
  obtain ⟨item, hitem, hname, hstart, hstop, hraw⟩ := hsecond
  refine ⟨o, item, hshows item hitem, hname, hstart, hstop, hraw, hslice, ?_⟩
  rw [Item.Indexes, hstart, hstop, hraw, hslice]
  decide

/-- The first one stands before any carriage return. -/
theorem first_line_indexed : Utf8.decodeStrict bytes = .ok content ∧
    (∃ (o : Printout bytes) (item : Item), o.Shows item ∧ item.name = "f" ∧
      0x0D ∉ bytes.take item.span.stop ∧ item.Indexes bytes) ∧
    ¬ ∀ (o : Printout bytes) (item : Item), o.Shows item → item.Indexes bytes := by
  obtain ⟨before, all_iff⟩ := printed_spans_index_file valid
  obtain ⟨o, hshows⟩ := exists_printout
  have hfirst : ∃ item ∈ (extract (Utf8.encode text) root true 0).file.items,
      item.name = "f" ∧ 0x0D ∉ bytes.take item.span.stop := by decide +kernel
  obtain ⟨item, hitem, hname, hclean⟩ := hfirst
  have hshown := hshows item hitem
  refine ⟨valid, ⟨o, item, hshown, hname, hclean, before o item hshown hclean⟩, fun h => ?_⟩
  have hreturn : '\r' ∈ content.toList := by decide +kernel
  have hletter : 'p' ∈ content.toList := by decide +kernel
  rcases all_iff.mp h with hnone | hblank
  · exact hnone hreturn
  · exact absurd (hblank 'p' hletter) (by decide)

end ReturnedLines
end Command
end RustOutline
