import JavaBuild.Proofs.Text.Utf8
import JavaBuild.Proofs.Xml.StartTag
import JavaBuild.Xml.Document

/-!
# Reading written documents

A document that starts with the declaration of version 1.0 in UTF-8 is read from the
characters after it (`readDocument_declared`), and one that starts with a tag from its
first character (`readDocument_undeclared`). Without a document type declaration, this
is read as the root and what stands after it (`readBody_of_root`), and the root as a
start tag and a content (`readRoot_of_written`).
-/

namespace JavaBuild.Xml

variable {e : Ending} {c : Char} {cs name rest : List Char}

/-! ## The declaration -/

/-- The declaration of version 1.0 in UTF-8. -/
def declaration : List Char := "<?xml version=\"1.0\" encoding=\"UTF-8\"?>".toList

theorem read_utf8 (s : String) : Encoding.utf8.read s.toUTF8 = ⟨s.toList, .complete⟩ := by
  have h : s.toUTF8.IsValidUTF8 := s.isValidUTF8
  simp only [Encoding.read, String.fromUTF8?, h, dite_true]
  rfl

/-- The first bytes show that markup is in UTF-8. -/
theorem detect_toUTF8 {s : String} (h : s.toList = '<' :: c :: cs) (hc : 0 < c.toNat)
    (hascii : c.toNat < 0x80) : detect (s.toUTF8.toList.take 3) = some .utf8 := by
  have hbyte : String.utf8EncodeChar c = [c.toNat.toUInt8] := by
    rw [String.utf8EncodeChar]
    exact if_pos (Nat.le_of_lt_succ hascii)
  have hne : (c.toNat.toUInt8 == 0) = false := by
    rw [beq_eq_false_iff_ne]
    intro h0
    have := congrArg UInt8.toNat h0
    simp at this
    omega
  rw [Text.toList_toUTF8, h, List.flatMap_cons, List.flatMap_cons, hbyte]
  change detect (0x3C :: c.toNat.toUInt8 :: (cs.flatMap String.utf8EncodeChar).take 1) = _
  simp [detect, hne]

theorem named_utf8 : Encoding.named "UTF-8" = .narrow .utf8 := by
  have h : "UTF-8".toLower = "utf-8" := by decide +kernel
  rw [Encoding.named, h]
  rfl

theorem declarationText?_declared (cs : List Char) :
    declarationText? e (declaration ++ cs) =
      .ok (some (" version=\"1.0\" encoding=\"UTF-8\"".toList, cs.length + 2)) := by
  let inside := "xml version=\"1.0\" encoding=\"UTF-8\"?>".toList
  have hscan : scanInstruction e (inside ++ cs) = .ok (true, cs) := rfl
  have hlength : (inside ++ cs).length - cs.length - 5 = 31 := by
    rw [List.length_append, Nat.add_sub_cancel]
    rfl
  change declarationText? e ('<' :: '?' :: (inside ++ cs)) = _
  simp only [declarationText?, hscan, hlength]
  rfl

/-- A document with the usual declaration is read from the characters after it. -/
theorem readDocument_declared {s : String} (h : s.toList = declaration ++ cs) :
    readDocument s.toUTF8 = withPosition s.toList (readBody .complete false cs) := by
  have hdetect : detect (s.toUTF8.toList.take 3) = some .utf8 :=
    detect_toUTF8 (c := '?') h (by decide) (by decide)
  have hmark : dropMark s.toList = s.toList := by
    rw [h]
    rfl
  have htext : declarationText? .complete s.toList =
      .ok (some (" version=\"1.0\" encoding=\"UTF-8\"".toList, cs.length + 2)) := by
    rw [h, declarationText?_declared]
  have hread : XmlDeclaration.read " version=\"1.0\" encoding=\"UTF-8\"".toList =
      .ok { encoding := some ("UTF-8", 6) } := rfl
  have hnamed (position : Position) : declaredEncoding .utf8 "UTF-8" position = .ok .utf8 := by
    rw [declaredEncoding.eq_def, named_utf8]
  -- The body is what the declaration has left.
  have hdrop : s.toList.drop (s.toList.length + 2 - (cs.length + 2)) = cs := by
    rw [h, Nat.add_sub_add_right, List.length_append, Nat.add_sub_cancel, List.drop_left]
  rw [readDocument, hdetect]
  simp only
  rw [readDetected, read_utf8]
  have hagain (n : Nat) : Encoding.utf8.readAfter n s.toUTF8 = ⟨s.toList, .complete⟩ := read_utf8 s
  simp only [hmark, htext, withPosition, bind, Except.bind, hread, hnamed, hagain]
  rw [show charactersIn .utf8 .utf8 s.toList (s.toList.length + 2 - (cs.length + 2)) =
    s.toList.length + 2 - (cs.length + 2) from rfl, hdrop]

theorem declarationText?_of_ne (hc : c ≠ '?') (cs : List Char) :
    declarationText? e ('<' :: c :: cs) = .ok none := by
  rw [declarationText?]
  simp [hc]

/-- A document without a declaration is read from its first character. -/
theorem readDocument_undeclared {s : String} (h : s.toList = '<' :: c :: cs) (hc : c ≠ '?')
    (hpos : 0 < c.toNat) (hascii : c.toNat < 0x80) :
    readDocument s.toUTF8 = withPosition s.toList (readBody .complete false s.toList) := by
  have hmark : dropMark s.toList = s.toList := by
    rw [h]
    rfl
  have htext : declarationText? .complete s.toList = .ok none := by
    rw [h, declarationText?_of_ne hc]
  rw [readDocument, detect_toUTF8 h hpos hascii]
  simp only
  rw [readDetected, read_utf8]
  simp only [hmark, htext, withPosition, bind, Except.bind]

/-- A document in pieces without a declaration is read from their characters. -/
theorem readDocument_join {pieces : List String} {root : Element}
    (h : pieces.flatMap String.toList = '<' :: c :: cs) (hc : c ≠ '?') (hpos : 0 < c.toNat)
    (hascii : c.toNat < 0x80)
    (hbody : readBody .complete false (pieces.flatMap String.toList) = .ok root) :
    readDocument (String.join pieces).toUTF8 = .ok root := by
  have hchars : (String.join pieces).toList = pieces.flatMap String.toList := by simp
  rw [readDocument_undeclared (hchars.trans h) hc hpos hascii, hchars, hbody]
  rfl

/-! ## The root -/

/-- The root starts where white space ends. -/
theorem readProlog_of_root (h : cs.dropWhile isXmlSpace = '<' :: c :: rest) (hc : isNameStart c)
    (budget : Nat) (d : Declarations) :
    readProlog e (budget + 1) false d cs = .ok ⟨d.doctype, '<' :: c :: rest⟩ := by
  have hmarkup : scanPrologMarkup e (c :: rest) = .ok (.root, c :: rest) := by
    have hbang := isNameStart_ne hc (d := '!') (by decide)
    have hquery := isNameStart_ne hc (d := '?') (by decide)
    rw [scanPrologMarkup, if_pos hc]
    · exact fun _ h => absurd h hbang
    · exact fun _ h => absurd h hbang
    · exact fun _ _ h => absurd h hbang
    · exact fun h => absurd h hbang
    · exact hquery
  have htoken : nextToken e cs =
      .ok (some ⟨.root, (cs.dropWhile isXmlSpace).length, c :: rest⟩) := by
    have hscan : scanToken e ('<' :: c :: rest) = .ok (.root, c :: rest) := hmarkup
    rw [nextToken, h]
    simp only [hscan]
    rfl
  rw [readProlog, htoken]
  simp only [bind, Except.bind]
  -- The root is read again from where it starts.
  rw [← List.suffix_iff_eq_drop.1 (List.dropWhile_suffix isXmlSpace), h]
  rfl

/-- Without a document type declaration, a document is its root with what follows it. -/
theorem readBody_of_root (h : cs.dropWhile isXmlSpace = '<' :: c :: rest) (hc : isNameStart c)
    {root : Element} {after : List Char}
    (hroot : readRoot {} .complete ('<' :: c :: rest) = .ok (root, after))
    (hafter : ∀ d ∈ after, isXmlSpace d) (standalone : Bool) :
    readBody .complete standalone cs = .ok root := by
  have hepilog : checkEpilog .complete (after.length + 1) after = .ok () := by
    rw [checkEpilog, nextToken, List.dropWhile_eq_nil_iff.2 hafter]
    rfl
  rw [readBody, readProlog_of_root h hc]
  simp only [bind, Except.bind]
  rw [hroot]
  simp only [hepilog]
  rfl

variable {space : List Char} {as : List WrittenAttribute} {after : List Char}

/-- The root is read as a start tag with a content. -/
theorem readRoot_of_written (h : PlainName name) (hnodup : (as.map (·.name)).Nodup)
    (hspace : ∀ c ∈ space, isXmlSpace c) {nodes : List Node} {left : Nat}
    (hcontent : readRootContent {} e .initial rest = .ok ⟨nodes, .endTag name left, after⟩) :
    readRoot {} e ('<' :: (tagChars name as false space ++ rest)) =
      .ok (⟨.plain (String.ofList name), as.map (·.meaning), nodes⟩, after) := by
  obtain ⟨raws, hscan, hall⟩ := scanStartTag_append (e := e) h as false hspace rest
  have hopen := openTag_of_written .initial h hall hnodup rfl false
  rw [readRoot, List.tail_cons, hscan]
  simp only [hopen]
  rw [if_neg (by simp)]
  simp only [bind, Except.bind, pure, Except.pure, hcontent]
  rw [if_neg (by simp)]

/-- The root may be closed by its start tag. -/
theorem readRoot_closed (h : PlainName name) (hnodup : (as.map (·.name)).Nodup)
    (hspace : ∀ c ∈ space, isXmlSpace c) (after : List Char) :
    readRoot {} e ('<' :: (tagChars name as true space ++ after)) =
      .ok (⟨.plain (String.ofList name), as.map (·.meaning), []⟩, after) := by
  obtain ⟨raws, hscan, hall⟩ := scanStartTag_append (e := e) h as true hspace after
  have hopen := openTag_of_written .initial h hall hnodup rfl true
  rw [readRoot, List.tail_cons, hscan]
  simp only [hopen]
  rfl

/-- A document of one element is read as this element. -/
theorem readBody_of_tag (h : PlainName name) {closed : Bool} {root : Element} {blank : List Char}
    (hroot : readRoot {} .complete ('<' :: (tagChars name as closed space ++ rest)) =
      .ok (root, after))
    (hblank : ∀ d ∈ blank, isXmlSpace d) (hafter : ∀ d ∈ after, isXmlSpace d)
    (standalone : Bool) :
    readBody .complete standalone (blank ++ '<' :: (tagChars name as closed space ++ rest)) =
      .ok root := by
  obtain ⟨c, cs, hc, hcs⟩ := h.tagChars_eq_cons as closed space rest
  rw [hcs] at hroot ⊢
  refine readBody_of_root ?_ hc hroot hafter standalone
  rw [List.dropWhile_append_of_pos hblank, List.dropWhile_cons_of_neg (by decide)]

end JavaBuild.Xml
