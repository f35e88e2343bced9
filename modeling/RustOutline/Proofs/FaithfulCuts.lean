import RustOutline.Proofs.TextCuts

/-! Raw texts and signatures are cuts of the source. Where the ranges of a tree cut no character,
nothing is replaced in decoding: a raw text encodes back to the bytes of its span, and a signature is
followed by blanks and the body, so that nothing else of the declaration is left out. -/
namespace RustOutline
open Text

/-- The signature of a declaration node: all of its text if it has no body, and else what stands before
the body, less the blanks between them. -/
inductive Node.Signed (source : Utf8.Bytes) (n : Node) (signature : String) : Prop
  | whole (bodiless : n.child? "body" = none) (all : signature = n.text source)
  | upToBody {body : Node} (inner : n.child? "body" = some body)
      (trimmed : ∀ c, signature.toList.getLast? = some c → isBlank c = false)
      (cut : n.start ≤ body.start → body.start ≤ n.stop →
        ∃ blanks : String, (∀ c ∈ blanks.toList, isBlank c = true) ∧
          n.text source = signature ++ blanks ++ Utf8.decode (slice source body.start n.stop))

/-- A trait method was made of a function in the body of the trait node. -/
inductive TraitMethod.MadeOf (source : Utf8.Bytes) (n : Node) : Node → TraitMethod → Prop
  | mk {body : Node} {f : Site} {m : TraitMethod} (inner : n.child? "body" = some body)
      (mem : f ∈ Site.namedChildren body) (made : traitMethod? source f = some m) :
      MadeOf source n f.node m

theorem slice_split {start middle stop : Nat} (h : start ≤ middle) (h' : middle ≤ stop)
    (source : Utf8.Bytes) :
    slice source start stop = slice source start middle ++ slice source middle stop := by
  have hlength : stop - start = (middle - start) + (stop - middle) := by omega
  have hdrop : start + (middle - start) = middle := by omega
  rw [slice, hlength, List.take_add, List.drop_drop, hdrop]
  rfl

/-- A text in front of any bytes is decoded as itself. -/
theorem Utf8.decode_encode_append (s : String) (rest : Bytes) :
    decode (encode s ++ rest) = s ++ decode rest := by
  rw [decode, encode, decodeChars_encodeChars_append, String.ofList_append, String.ofList_toList]
  rfl

theorem Text.exists_eq_stripEnd_append (s : String) :
    ∃ blanks : String, s = stripEnd s ++ blanks ∧ ∀ c ∈ blanks.toList, isBlank c = true := by
  obtain ⟨blanks, hs, hblank⟩ := exists_eq_trimEnd_append s.toList
  refine ⟨String.ofList blanks, ?_, by simpa using hblank⟩
  rw [stripEnd, ← String.ofList_append, ← hs, String.ofList_toList]

namespace Node.CutsNoCharacter
variable {root n : Node} {text : String}

theorem encode_text (h : root.CutsNoCharacter text) (hn : n ∈ root.preorder) :
    Utf8.encode (n.text (Utf8.encode text)) = n.bytes (Utf8.encode text) := by
  obtain ⟨middle, -, hbytes⟩ := h.exists_bytes_eq hn
  rw [Node.text, hbytes, Utf8.decode, Utf8.decodeChars_encodeChars, Utf8.encode, String.toList_ofList]

/-- The signature that is read off a node cuts its text before the body. -/
theorem signed_signature (h : root.CutsNoCharacter text) (hn : n ∈ root.preorder) :
    n.Signed (Utf8.encode text) (n.signature (Utf8.encode text)) := by
  cases hb : n.child? "body" with
  | none => exact .whole hb (by rw [Node.signature, hb])
  | some body =>
    have hbody : body ∈ root.preorder :=
      mem_preorder_trans hn
        (mem_preorder_of_child (mem_children_of_child? hb) (mem_preorder_self body))
    have hsignature : n.signature (Utf8.encode text) =
        stripEnd (Utf8.decode (slice (Utf8.encode text) n.start body.start)) := by
      rw [Node.signature, hb]
    refine .upToBody hb (fun c hc => ?_) fun hstart hstop => ?_
    · rw [hsignature, stripEnd, String.toList_ofList] at hc
      exact getLast?_trimEnd hc
    · obtain ⟨before, -, hbefore⟩ := exists_slice_eq (h n hn).2.1 (h body hbody).2.1 hstart
      obtain ⟨blanks, hblanks, hall⟩ := exists_eq_stripEnd_append (String.ofList before)
      refine ⟨blanks, hall, ?_⟩
      have hhead : slice (Utf8.encode text) n.start body.start = Utf8.encode (String.ofList before) := by
        rw [Utf8.encode, hbefore, Utf8.encode, String.toList_ofList]
      rw [hsignature, hhead, Utf8.decode_encode, ← hblanks, ← Utf8.decode_encode_append, ← hhead,
        ← slice_split hstart hstop]
      rfl

end Node.CutsNoCharacter

namespace FileContext
variable {ctx : FileContext} {root n f : Node} {item : Item}

theorem Makes.signature_eq {signature : String} (h : ctx.Makes root n item)
    (hd : item.details = .function signature) : signature = n.signature ctx.source := by
  cases h with
  | member _ _ _ made => exact made.signature_eq hd
  | method _ _ _ _ _ made =>
    obtain ⟨_, _, _, _, rfl⟩ := implMethod?_eq_some.mp made
    exact (Details.function.inj hd).symm

theorem Makes.exists_madeOf {methods : List TraitMethod} {m : TraitMethod}
    (h : ctx.Makes root n item) (hd : item.details = .trait methods) (hm : m ∈ methods) :
    ∃ f, m.MadeOf ctx.source n f := by
  cases h with
  | member _ _ _ made =>
    obtain rfl := made.traitMethods_eq hd
    unfold Node.traitMethods at hm
    split at hm
    · cases hm
    · next body hb =>
      obtain ⟨f, hf, hmade⟩ := List.mem_filterMap.mp hm
      exact ⟨f.node, .mk hb hf hmade⟩
  | method _ _ _ _ _ made =>
    obtain ⟨_, _, _, _, rfl⟩ := implMethod?_eq_some.mp made
    cases hd

end FileContext

namespace TraitMethod.MadeOf
variable {source : Utf8.Bytes} {n f : Node} {m : TraitMethod}

theorem mem_preorder (h : m.MadeOf source n f) : f ∈ n.preorder := by
  cases h with
  | mk inner mem _ => exact Node.mem_preorder_of_body inner mem

theorem fields (h : m.MadeOf source n f) :
    m.span = f.span ∧ m.signature = f.signature source := by
  cases h with
  | mk _ _ made =>
    unfold traitMethod? at made
    split at made
    · obtain ⟨_, _, rfl⟩ := Option.map_eq_some_iff.mp made
      exact ⟨rfl, rfl⟩
    · cases made

end TraitMethod.MadeOf

/-- The texts of an outline are those of the source. Every item was made of a node of the tree; its raw
text encodes to the bytes of its span, and the signature of a function, a method or a trait method is
the text of its node, up to the body if there is one. -/
theorem texts_are_cuts {text : String} {root : Node} (whole : root.CutsNoCharacter text)
    (includePrivate : Bool) (parseTimeMs : Int) {scope : Scope}
    (contains : (extract (Utf8.encode text) root includePrivate parseTimeMs).file.Contains scope) :
    (∀ item, item.ListedIn scope.items →
      Utf8.encode item.rawText = slice (Utf8.encode text) item.span.start item.span.stop ∧
      (∃ n, (FileContext.ofFile (Utf8.encode text) includePrivate root).Makes root n item) ∧
      ∀ n, (FileContext.ofFile (Utf8.encode text) includePrivate root).Makes root n item →
        n.span = item.span ∧ n.text (Utf8.encode text) = item.rawText ∧
          ∀ signature, item.details = .function signature →
            n.Signed (Utf8.encode text) signature) ∧
    ∀ item ∈ scope.items, ∀ methods, item.details = .trait methods → ∀ m ∈ methods,
      ∀ n, (FileContext.ofFile (Utf8.encode text) includePrivate root).Makes root n item →
        (∃ f, m.MadeOf (Utf8.encode text) n f) ∧
        ∀ f, m.MadeOf (Utf8.encode text) n f →
          f.span = m.span ∧ f.Signed (Utf8.encode text) m.signature := by
  constructor
  · intro item hitem
    obtain ⟨n, hmakes⟩ := exists_makes contains hitem
    refine ⟨?_, ⟨n, hmakes⟩, fun n' hmakes' =>
      ⟨hmakes'.stands.span.symm, hmakes'.stands.rawText.symm, fun signature hd => ?_⟩⟩
    · rw [hmakes.stands.rawText, hmakes.stands.span]
      exact whole.encode_text hmakes.mem_preorder
    · rw [hmakes'.signature_eq hd]
      exact whole.signed_signature hmakes'.mem_preorder
  · intro item _ methods hd m hm n hmakes
    refine ⟨hmakes.exists_madeOf hd hm, fun f hmade => ?_⟩
    obtain ⟨hspan, hsignature⟩ := hmade.fields
    refine ⟨hspan.symm, ?_⟩
    rw [hsignature]
    exact whole.signed_signature (Node.mem_preorder_trans hmakes.mem_preorder hmade.mem_preorder)

namespace WideNames

/-- Names of more than one byte, a method with a wide blank before its body, and a trait method without
a body. -/
def text : String := "struct é; impl é \x7b fn ü()\u2003\x7b\x7d \x7d trait T \x7b fn m(); \x7d"

def source : Utf8.Bytes := Utf8.encode text

private abbrev node := Node.ofRange source
private abbrev token := Node.token source

def dataType : Node := node "struct_item" none 0 10 [
  token "struct" 0 6, node "type_identifier" (some "name") 7 9 [], token ";" 9 10]

def function : Node := node "function_item" none 21 33 [
  token "fn" 21 23, node "identifier" (some "name") 24 26 [],
  node "parameters" (some "parameters") 26 28 [token "(" 26 27, token ")" 27 28],
  node "block" (some "body") 31 33 [token "\x7b" 31 32, token "\x7d" 32 33]]

def block : Node := node "impl_item" none 11 35 [
  token "impl" 11 15, node "type_identifier" (some "type") 16 18 [],
  node "declaration_list" (some "body") 19 35 [token "\x7b" 19 20, function, token "\x7d" 34 35]]

def requirement : Node := node "function_signature_item" none 46 53 [
  token "fn" 46 48, node "identifier" (some "name") 49 50 [],
  node "parameters" (some "parameters") 50 52 [token "(" 50 51, token ")" 51 52], token ";" 52 53]

def traitNode : Node := node "trait_item" none 36 55 [
  token "trait" 36 41, node "type_identifier" (some "name") 42 43 [],
  node "declaration_list" (some "body") 44 55 [token "\x7b" 44 45, requirement, token "\x7d" 54 55]]

def root : Node := node "source_file" none 0 55 [dataType, block, traitNode]

def method : Item :=
  Site.item source ⟨function, false, [token "\x7b" 19 20]⟩ "ü" (.function "fn ü()")

def dataItem : Item := Site.item source ⟨dataType, false, []⟩ "é" (.dataType .struct [method])

def traitMethod : TraitMethod := ⟨"m", "fn m();", none, requirement.span⟩

def traitItem : Item :=
  Site.item source ⟨traitNode, false, [block, dataType]⟩ "T" (.trait [traitMethod])

theorem items_eq : (extract source root true 0).file.items = [dataItem, traitItem] := by
  rw [extract, fileScope_eq_join]
  rfl

/-- The method is cut before its blank, and the trait method is not cut at all. -/
theorem texts_cut : root.CutsNoCharacter text ∧
    method.ListedIn (extract source root true 0).file.items ∧
    traitItem ∈ (extract source root true 0).file.items ∧
    Utf8.encode method.rawText = slice source 21 33 ∧
    (∃ n, (FileContext.ofFile source true root).Makes root n method ∧ n.Signed source "fn ü()") ∧
    ∃ n f, (FileContext.ofFile source true root).Makes root n traitItem ∧
      traitMethod.MadeOf source n f ∧ f.Signed source "fn m();" := by
  have whole : root.CutsNoCharacter text := by decide +kernel
  have hmethod : method.ListedIn (extract source root true 0).file.items := by
    have hdetails : dataItem.details = .dataType .struct [method] := rfl
    rw [items_eq]
    exact .method List.mem_cons_self hdetails List.mem_cons_self
  have htrait : traitItem ∈ (extract source root true 0).file.items := by
    rw [items_eq]
    simp
  obtain ⟨hitems, htraits⟩ := texts_are_cuts whole true 0 .self
  obtain ⟨hraw, ⟨n, hmakes⟩, hall⟩ := hitems method hmethod
  obtain ⟨-, ⟨n', hmakes'⟩, -⟩ := hitems traitItem (.own htrait)
  obtain ⟨⟨f, hmade⟩, hsigned⟩ :=
    htraits traitItem htrait _ rfl traitMethod List.mem_cons_self n' hmakes'
  exact ⟨whole, hmethod, htrait, hraw, ⟨n, hmakes, (hall n hmakes).2.2 _ rfl⟩, n', f, hmakes', hmade,
    (hsigned f hmade).2⟩

end WideNames
end RustOutline
