import JavaBuild.Proofs.Xml.Attribute
import JavaBuild.Proofs.Xml.Content
import JavaBuild.Proofs.Xml.Document

/-!
# Written elements

An element is written as a start tag with its attributes, its content and an end tag, or as
one tag that closes it if it is empty (`WritesElement`). Between elements stands layout,
which is blanks, tabs and ends of lines (`WritesContent`). A document that is written with
one element, after the declaration of UTF-8 or without it, is read as this element
(`readDocument_of_writes`).
-/

namespace JavaBuild.Xml

variable {e : TextEnd} {expand : Bindings → List Char → Except XmlFault (List Node)}
  {bindings : Bindings} {written after : List Char} {content : Content} {x : Element}
  {nodes : List Node}

/-- White space that is read as it is. -/
def IsLayout (gap : List Char) : Prop := ∀ c ∈ gap, c = ' ' ∨ c = '\t' ∨ c = '\n'

instance (gap : List Char) : Decidable (IsLayout gap) :=
  inferInstanceAs (Decidable (∀ c ∈ gap, c = ' ' ∨ c = '\t' ∨ c = '\n'))

mutual
/-- An element is written with a start tag and an end tag, or with one tag if it is empty. -/
inductive WritesElement : Element → List Char → Prop
  | opened {name attributes space body : List Char} {as : List Attribute} {nodes : List Node}
    (plain : PlainName name) (has : WritesAttributes as attributes)
    (distinct : (as.map (·.name)).Nodup) (hspace : ∀ c ∈ space, isXmlSpace c)
    (hbody : WritesContent nodes body) :
    WritesElement ⟨.plain (String.ofList name), as, nodes⟩
      ('<' :: (name ++ (attributes ++ (space ++ '>' :: (body ++ endTagChars name)))))
  | closed {name attributes space : List Char} {as : List Attribute}
    (plain : PlainName name) (has : WritesAttributes as attributes)
    (distinct : (as.map (·.name)).Nodup) (hspace : ∀ c ∈ space, isXmlSpace c) :
    WritesElement ⟨.plain (String.ofList name), as, []⟩
      ('<' :: (name ++ (attributes ++ (space ++ ['/', '>']))))
/-- Elements are written one after the other, with layout around them. -/
inductive WritesContent : List Node → List Char → Prop
  | layout {gap : List Char} (hgap : IsLayout gap) : WritesContent (consText gap []) gap
  | element {gap written after : List Char} {x : Element} {nodes : List Node}
    (hgap : IsLayout gap) (hx : WritesElement x written) (hafter : WritesContent nodes after) :
    WritesContent (consText gap (x.node :: nodes)) (gap ++ (written ++ after))
end

/-- An element starts with its name. -/
theorem WritesElement.exists_cons (h : WritesElement x written) : ∃ c tail,
    written = '<' :: c :: tail ∧ isNameStart c ∧ x.name.base.toList.head? = some c := by
  have hname {name : List Char} (plain : PlainName name) :
      ∃ c cs, name = c :: cs ∧ isNameStart c := by
    have hstart := plain.starts
    cases name with
    | nil => cases hstart
    | cons c cs => exact ⟨c, cs, rfl, hstart⟩
  -- Both forms of tags start with the name.
  cases h with
  | opened plain =>
    obtain ⟨c, cs, rfl, hc⟩ := hname plain
    exact ⟨c, _, rfl, hc, congrArg List.head? String.toList_ofList⟩
  | closed plain =>
    obtain ⟨c, cs, rfl, hc⟩ := hname plain
    exact ⟨c, _, rfl, hc, congrArg List.head? String.toList_ofList⟩

/-- Layout in front of a content is read as text. -/
theorem Reads.layout {gap rest : List Char} (hgap : IsLayout gap)
    (h : Reads e expand bindings ('<' :: rest) content) :
    Reads e expand bindings (gap ++ '<' :: rest) (content.consText gap) := by
  have hescape : ∀ c ∈ gap, EscapesText c [c] := by
    intro c hc
    rcases hgap c hc with rfl | rfl | rfl
    · exact .itself (by decide) (by decide)
    · exact .itself (by decide) (by decide)
    · exact .itself (by decide) (by decide)
  have htext := Reads.text hescape h
  rwa [List.flatMap_singleton'] at htext

/-- The names of written attributes are distinct if those of the attributes are. -/
theorem nodup_names {was : List WrittenAttribute}
    (h : ((was.map (·.meaning)).map (·.name)).Nodup) : (was.map (·.name)).Nodup := by
  rw [List.map_map] at h
  have hnames : was.map ((·.name) ∘ (·.meaning)) =
      (was.map (·.name)).map fun name => Name.plain (String.ofList name) := by
    rw [List.map_map]
    rfl
  rw [hnames] at h
  exact List.Pairwise.of_map _ (fun _ _ hne heq => hne (heq ▸ rfl)) h

mutual
/-- A written element is read in front of a content. -/
theorem WritesElement.reads : ∀ {x : Element} {written : List Char}, WritesElement x written →
    ∀ {bindings : Bindings} {after : List Char} {content : Content},
    bindings.space? [] = none → Reads e expand bindings after content →
    Reads e expand bindings (written ++ after)
      ⟨x.node :: content.nodes, content.ending, content.rest⟩
  | _, _, .opened plain has distinct hspace hbody, bindings, after, content, hfree, hafter => by
    have hread := hbody.reads hfree (reads_endTag plain after)
    obtain ⟨was, rfl, rfl⟩ := has.exists_written
    have helement := hafter.element plain (nodup_names distinct) hspace hfree hread (by simp; omega)
    simpa [tagChars, tagEnd, endTagChars, Element.node] using helement
  | _, _, .closed plain has distinct hspace, _, _, _, hfree, hafter => by
    obtain ⟨was, rfl, rfl⟩ := has.exists_written
    have helement := hafter.closedElement plain (nodup_names distinct) hspace hfree
    simpa [tagChars, tagEnd, Element.node] using helement
/-- A written content is read up to the tag after it. -/
theorem WritesContent.reads : ∀ {nodes : List Node} {written : List Char},
    WritesContent nodes written → ∀ {bindings : Bindings} {rest : List Char} {ending : ContentEnd}
    {left : List Char}, bindings.space? [] = none →
    Reads e expand bindings ('<' :: rest) ⟨[], ending, left⟩ →
    Reads e expand bindings (written ++ '<' :: rest) ⟨nodes, ending, left⟩
  | _, _, .layout hgap, _, _, _, _, _, hrest => Reads.layout hgap hrest
  | _, _, .element hgap hx hafter, _, _, _, _, hfree, hrest => by
    have hnext := hx.reads hfree (hafter.reads hfree hrest)
    obtain ⟨c, tail, rfl, -⟩ := hx.exists_cons
    rw [List.append_assoc, List.append_assoc]
    exact Reads.layout hgap hnext
end

/-! ## Documents -/

/-- A document of one element, with white space around it. It starts with the declaration
    of UTF-8, or with a name in ASCII. -/
inductive WritesDocument (root : Element) : List Char → Prop
  | declared {before written after : List Char} (hbefore : ∀ c ∈ before, isXmlSpace c)
    (hroot : WritesElement root written) (hafter : ∀ c ∈ after, isXmlSpace c) :
    WritesDocument root (declaration ++ (before ++ (written ++ after)))
  | undeclared {written after : List Char} (hroot : WritesElement root written)
    (hafter : ∀ c ∈ after, isXmlSpace c)
    (ascii : ∀ c ∈ root.name.base.toList.head?, c.toNat < 0x80) :
    WritesDocument root (written ++ after)

/-- A written root is read, with white space around it. -/
theorem readBody_of_writes {root : Element} {before : List Char}
    (hbefore : ∀ c ∈ before, isXmlSpace c) (h : WritesElement root written)
    (hafter : ∀ c ∈ after, isXmlSpace c) :
    readBody .complete false (before ++ (written ++ after)) = .ok root := by
  cases h with
  | @opened name attributes space body as nodes plain has distinct hspace hbody =>
    obtain ⟨was, rfl, rfl⟩ := has.exists_written
    have hread : Reads ⟨.complete, .noElement⟩ (expandInContent ({} : Doctype).entities.depth {})
        .initial (body ++ (endTagChars name ++ after)) ⟨nodes, .endTag name _, after⟩ :=
      hbody.reads rfl (reads_endTag plain after)
    have hroot := readRoot_of_written plain (nodup_names distinct) hspace
      (hread _ (Nat.lt_succ_self _))
    have hresult := readBody_of_tag plain hroot hbefore hafter false
    simpa [tagChars, tagEnd, endTagChars] using hresult
  | @closed name attributes space as plain has distinct hspace =>
    obtain ⟨was, rfl, rfl⟩ := has.exists_written
    have hroot := readRoot_closed (e := .complete) plain (nodup_names distinct) hspace after
    have hresult := readBody_of_tag plain hroot hbefore hafter false
    simpa [tagChars, tagEnd] using hresult

/-- A written document is read as its root. -/
theorem readDocument_of_writes {root : Element} {document : String}
    (h : WritesDocument root document.toList) : readDocument document.toUTF8 = .ok root := by
  generalize hchars : document.toList = chars at h
  cases h with
  | declared hbefore hroot hafter =>
    rw [readDocument_declared hchars, readBody_of_writes hbefore hroot hafter]
    rfl
  | undeclared hroot hafter ascii =>
    have hbefore : ∀ c ∈ [], isXmlSpace c := List.forall_mem_nil _
    have hbody := readBody_of_writes hbefore hroot hafter
    obtain ⟨c, tail, rfl, hc, hhead⟩ := hroot.exists_cons
    -- The first two bytes do not look like those of an encoding of two bytes a character.
    have hpos : 0 < c.toNat := by
      refine Nat.pos_of_ne_zero fun hzero => ?_
      exact isNameStart_ne hc (d := '\x00') (by decide) (Char.toNat_inj.1 hzero)
    rw [readDocument_undeclared hchars (isNameStart_ne hc (by decide)) hpos (ascii c hhead), hchars]
    exact congrArg (withPosition _) hbody

end JavaBuild.Xml
