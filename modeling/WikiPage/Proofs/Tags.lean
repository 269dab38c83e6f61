import WikiPage.Proofs.ReadTrees
import WikiPage.Proofs.Writing
/-!
# The tags of written markup

Text cannot make tags: the tags that one finds between brackets in the markup of a tree are those that
the kinds of its nodes are written with, whatever the texts in it are.

* `tagTexts?` reads what stands between `<` and `>` in a text, and `readTags?` the names there.
* `readTags?_writeAll`: parts with names, none of them raw, are read as the tags among them.
* `tags` are those that a tree is written with: `reads_nodeParts`.  They are closed in order
  (`neutral_tags`), and those of two trees that differ in texts only are the same (`tags_blank`).
* `tags_of_markup` says this of the markup of a page.
-/

namespace WikiPage

namespace Markup

/-! ## 1. Reading tags -/

/-- The texts of the tags in a text, when its brackets alternate; one reads outside of tags, or in
one of which something has been read, in reverse. -/
def tagTexts? : (within : Option (List Char)) → List Char → Option (List (List Char))
  | none, [] => some []
  | some _, [] => none
  | none, c :: rest =>
    if c = '<' then tagTexts? (some []) rest
    else if c = '>' then none
    else tagTexts? none rest
  | some reversed, c :: rest =>
    if c = '<' then none
    else if c = '>' then (tagTexts? none rest).map (reversed.reverse :: ·)
    else tagTexts? (some (c :: reversed)) rest

/-- The name of a tag that starts or ends an element. -/
inductive TagName where
  | start (name : String)
  | stop (name : String)
  deriving DecidableEq, Repr, Inhabited

/-- The name in the text of a tag: behind a slash, or up to the first blank. -/
def TagName.ofText : List Char → TagName
  | '/' :: name => stop (String.ofList name)
  | text => start (String.ofList (text.takeWhile (· != ' ')))

/-- The names of the tags in a text. -/
def readTags? (text : List Char) : Option (List TagName) :=
  (tagTexts? none text).map (List.map TagName.ofText)

/-- Whether every tag that starts an element is followed by one that ends it, the last element that
was started being ended first; elements without an end tag are not ended. -/
def endInOrder : (started : List String) → List TagName → Bool
  | started, [] => started.isEmpty
  | started, .start name :: rest =>
    if voidElements.contains name then endInOrder started rest
    else endInOrder (name :: started) rest
  | [], .stop _ :: _ => false
  | last :: started, .stop name :: rest => last == name && endInOrder started rest

/-- Whether there are no brackets in a text. -/
def Plain (text : List Char) : Prop := ∀ c ∈ text, c ≠ '<' ∧ c ≠ '>'

instance (text : List Char) : Decidable (Plain text) :=
  List.decidableBAll (fun c => c ≠ '<' ∧ c ≠ '>') text

theorem plain_append {a b : List Char} : Plain (a ++ b) ↔ Plain a ∧ Plain b :=
  List.forall_mem_append

theorem tagTexts?_outside {text : List Char} (h : Plain text) (rest : List Char) :
    tagTexts? none (text ++ rest) = tagTexts? none rest := by
  induction text with
  | nil => rfl
  | cons c text ih =>
    obtain ⟨hc, htext⟩ := List.forall_mem_cons.1 h
    rw [List.cons_append, tagTexts?, if_neg hc.1, if_neg hc.2, ih htext]

theorem tagTexts?_within {text : List Char} (h : Plain text) (reversed rest : List Char) :
    tagTexts? (some reversed) (text ++ '>' :: rest) =
      (tagTexts? none rest).map ((reversed.reverse ++ text) :: ·) := by
  induction text generalizing reversed with
  | nil => simp [tagTexts?]
  | cons c text ih =>
    obtain ⟨hc, htext⟩ := List.forall_mem_cons.1 h
    rw [List.cons_append, tagTexts?, if_neg hc.1, if_neg hc.2, ih htext]
    simp

theorem readTags?_plain {text : List Char} (h : Plain text) (rest : List Char) :
    readTags? (text ++ rest) = readTags? rest :=
  congrArg (Option.map _) (tagTexts?_outside h rest)

theorem readTags?_tag {text : List Char} (h : Plain text) (rest : List Char) :
    readTags? ('<' :: (text ++ '>' :: rest)) =
      (readTags? rest).map (TagName.ofText text :: ·) := by
  have hread := tagTexts?_within h [] rest
  simp only [List.reverse_nil, List.nil_append] at hread
  rw [readTags?, tagTexts?, if_pos rfl, hread, readTags?, Option.map_map, Option.map_map]
  rfl

/-! ## 2. Parts as tags -/

/-- No bracket is written for a character. -/
theorem plain_escapeChar (c : Char) : Plain (escapeChar c) := by
  unfold escapeChar
  split
  case h_2 | h_3 | h_4 | h_5 | h_1 => decide
  case h_6 hlt hgt _ _ => exact List.forall_mem_singleton.2 ⟨hlt, hgt⟩

theorem plain_escape (s : String) : Plain (escape s).toList := by
  rw [escape, String.toList_ofList]
  intro x hx
  obtain ⟨c, -, hx⟩ := List.mem_flatMap.1 hx
  exact plain_escapeChar c x hx

/-- A name begins with a character that is no slash, and has no blanks or brackets in it. -/
theorem isName_spec {s : String} (h : isName s = true) :
    (∃ c rest, s.toList = c :: rest ∧ c ≠ '/') ∧ Plain s.toList ∧ ∀ c ∈ s.toList, c ≠ ' ' := by
  unfold isName at h
  split at h
  · cases h
  · rename_i first rest hs
    rw [Bool.and_eq_true, List.all_eq_true] at h
    have hchars : ∀ c ∈ first :: rest, (c.isAlphanum || c == '-' || c == '_') = true :=
      List.forall_mem_cons.2 ⟨by rw [Char.isAlphanum, h.1]; rfl, h.2⟩
    have hne {c : Char} (hc : c ∈ first :: rest) {x : Char}
        (hx : (x.isAlphanum || x == '-' || x == '_') = false) : c ≠ x := by
      rintro rfl
      rw [hchars c hc] at hx
      cases hx
    rw [hs]
    exact ⟨⟨first, rest, rfl, hne List.mem_cons_self (by decide)⟩,
      fun c hc => ⟨hne hc (by decide), hne hc (by decide)⟩, fun c hc => hne hc (by decide)⟩

namespace Part

/-- Whether a part is text, or a tag with names that markup can have. -/
def isNamed : Part → Bool
  | start tag attributes => isName tag && attributes.all (isName ·.1)
  | stop tag => isName tag
  | text _ => true
  | raw _ => false

/-- The tag that a part is. -/
def tag? : Part → Option TagName
  | start tag _ => some (.start tag)
  | stop tag => some (.stop tag)
  | _ => none

theorem plain_attributeText {entry : String × Option String} (h : isName entry.1 = true) :
    Plain (attributeText entry).toList := by
  have hname := (isName_spec h).2.1
  obtain ⟨name, value | value⟩ := entry
  · rw [attributeText, String.toList_append, plain_append]
    exact ⟨by decide, hname⟩
  · simp only [attributeText, String.toList_append, plain_append]
    exact ⟨⟨⟨⟨by decide, hname⟩, by decide⟩, plain_escape value⟩, by decide⟩

/-- The text of attributes has no brackets, and if there are any, it begins with a blank. -/
theorem attributesText_spec {attributes : List (String × Option String)}
    (h : attributes.all (isName ·.1) = true) :
    Plain (String.join (attributes.map attributeText)).toList ∧
      (String.join (attributes.map attributeText)).toList.takeWhile (· != ' ') = [] := by
  rw [String.toList_join]
  constructor
  · intro c hc
    obtain ⟨text, htext, hc⟩ := List.mem_flatMap.1 hc
    obtain ⟨entry, hentry, rfl⟩ := List.mem_map.1 htext
    exact plain_attributeText (List.all_eq_true.1 h entry hentry) c hc
  · rcases attributes with _ | ⟨⟨name, value | value⟩, rest⟩
    · rfl
    · simp [attributeText, String.toList_append]
    · simp [attributeText, String.toList_append]

/-- **A part is read as the tag that it is**, and text is passed over. -/
theorem readTags?_write {p : Part} (h : p.isNamed = true) (rest : List Char) :
    readTags? (p.write.toList ++ rest) = (readTags? rest).map (p.tag?.toList ++ ·) := by
  cases p with
  | start tag attributes =>
    rw [isNamed, Bool.and_eq_true] at h
    obtain ⟨⟨c, name, htag, hslash⟩, hplain, hblank⟩ := isName_spec h.1
    obtain ⟨hattributes, hfirst⟩ := attributesText_spec h.2
    have hname : TagName.ofText
        (tag.toList ++ (String.join (attributes.map attributeText)).toList) = .start tag := by
      unfold TagName.ofText
      split
      · rename_i heq
        rw [htag] at heq
        exact absurd (List.cons.inj heq).1 hslash
      · rw [List.takeWhile_append_of_pos fun c hc => bne_iff_ne.2 (hblank c hc), hfirst,
          List.append_nil, String.ofList_toList]
    have hread := readTags?_tag (plain_append.2 ⟨hplain, hattributes⟩) rest
    rw [hname] at hread
    simpa [write, tag?, String.toList_append] using hread
  | stop tag =>
    have hplain : Plain ('/' :: tag.toList) :=
      List.forall_mem_cons.2 ⟨by decide, (isName_spec h).2.1⟩
    have hread := readTags?_tag hplain rest
    simpa [write, tag?, String.toList_append, TagName.ofText] using hread
  | text value =>
    rw [write, readTags?_plain (plain_escape value)]
    exact Option.map_id_apply.symm
  | raw value => cases h

/-- **Parts are read as the tags among them.** -/
theorem readTags?_writeAll {parts : List Part} (h : ∀ p ∈ parts, p.isNamed = true) :
    readTags? (writeAll parts).toList = some (parts.filterMap tag?) := by
  rw [writeAll, String.toList_join]
  induction parts with
  | nil => rfl
  | cons p rest ih =>
    obtain ⟨hp, hrest⟩ := List.forall_mem_cons.1 h
    rw [List.map_cons, List.flatMap_cons, readTags?_write hp, ih hrest, List.filterMap_cons]
    cases p <;> rfl

end Part

/-! ## 3. The tags of a tree -/

/-- The tags among parts. -/
def tagsOf (parts : List Part) : List TagName := parts.filterMap Part.tag?

/-- The tags of what a node of this kind holds, when these are those of its children as what stands in
a table, and as nodes in a row. -/
def heldTags (kind : NodeKind) (sections row : List TagName) : List TagName :=
  match kind with
  | .table _ => sections
  | kind => if kind.showsChildren then row else []

mutual
/-- The tags that a node is written with. -/
def tags : Node → List TagName
  | ⟨kind, children, span⟩ =>
    tagsOf (opening [] ⟨kind, children, span⟩) ++
      heldTags kind (sectionTags false children) (tagsAll children) ++ tagsOf (closing kind)
/-- The tags that nodes in a row are written with. -/
def tagsAll : List Node → List TagName
  | [] => []
  | n :: rest => tags n ++ tagsAll rest
/-- The tags that what stands in a table is written with. -/
def sectionTags (inBody : Bool) : List Node → List TagName
  | [] => if inBody then [.stop "tbody"] else []
  | ⟨.tableHead, cells, _⟩ :: rest =>
    [.start "thead", .start "tr"] ++ cellTags "th" cells ++ [.stop "tr", .stop "thead"] ++
      sectionTags inBody rest
  | ⟨.tableRow, cells, _⟩ :: rest =>
    (if inBody then [] else [.start "tbody"]) ++ [.start "tr"] ++ cellTags "td" cells ++
      [.stop "tr"] ++ sectionTags true rest
  | n :: rest => tags n ++ sectionTags inBody rest
/-- The tags that cells are written with. -/
def cellTags (tag : String) : List Node → List TagName
  | [] => []
  | ⟨_, children, _⟩ :: rest =>
    [.start tag] ++ tagsAll children ++ [.stop tag] ++ cellTags tag rest
end

theorem sectionTags_cons {inBody : Bool} {n : Node} {rest : List Node}
    (hhead : n.kind ≠ .tableHead) (hrow : n.kind ≠ .tableRow) :
    sectionTags inBody (n :: rest) = tags n ++ sectionTags inBody rest := by
  obtain ⟨kind, children, span⟩ := n
  cases kind with
  | tableHead => exact absurd rfl hhead
  | tableRow => exact absurd rfl hrow
  | _ => rfl

/-- Whether parts are text and tags with names, these tags among them. -/
structure Reads (parts : List Part) (names : List TagName) : Prop where
  named : parts.all Part.isNamed = true
  tags : tagsOf parts = names

theorem Reads.append {a b : List Part} {s t : List TagName} (ha : Reads a s) (hb : Reads b t) :
    Reads (a ++ b) (s ++ t) :=
  ⟨by rw [List.all_append, ha.named, hb.named]; rfl, by
    rw [tagsOf, List.filterMap_append, ← ha.tags, ← hb.tags, tagsOf, tagsOf]⟩

theorem toList_headingTag (level : Nat) :
    ("h" ++ toString level).toList = 'h' :: Nat.toDigits 10 level := by
  simp [String.toList_append, Nat.toList_repr]

theorem isName_headingTag (level : Nat) : isName ("h" ++ toString level) = true := by
  rw [isName, toList_headingTag]
  refine Bool.and_eq_true_iff.2 ⟨by decide, List.all_eq_true.2 fun c hc => ?_⟩
  rw [Char.isAlphanum, Nat.isDigit_of_mem_toDigits (by decide) (by decide) hc]
  simp

theorem all_titleAttribute (title : String) : (titleAttribute title).all (isName ·.1) = true := by
  unfold titleAttribute
  split <;> simp +decide only [List.all_cons, List.all_nil, Bool.and_true]

theorem all_headingAttributes (id : Option String) (classes : List String) :
    (headingAttributes id classes).all (isName ·.1) = true := by
  unfold headingAttributes
  rw [List.all_append, Bool.and_eq_true]
  constructor <;> split <;> simp +decide only [List.all_cons, List.all_nil, Bool.and_true]

theorem all_alignAttribute (alignment : Option Alignment) :
    (alignAttribute alignment).all (isName ·.1) = true := by
  rcases alignment with _ | _ | _ | _ | _ <;> rfl

theorem all_filterMap_shown? {entries : List (String × AttrValue)}
    (h : entries.all (isName ·.1) = true) :
    (entries.filterMap shown?).all (isName ·.1) = true := by
  refine List.all_eq_true.2 fun written hmem => ?_
  obtain ⟨⟨name, value⟩, hentry, hshown⟩ := List.mem_filterMap.1 hmem
  have hname : written.1 = name := by rcases value with value | _ | _ <;> cases hshown <;> rfl
  rw [hname]
  exact List.all_eq_true.1 h _ hentry

theorem all_opening {n : Node} (hnamed : n.kind.isNamed = true) (hraw : n.kind.isRaw = false)
    (labels : List String) : (opening labels n).all Part.isNamed = true := by
  obtain ⟨kind, children, span⟩ := n
  cases kind with
  | heading level id classes =>
    simp only [opening, List.all_cons, Part.isNamed, isName_headingTag, all_headingAttributes,
      List.all_nil, Bool.and_true]
  | element tag attributes =>
    rw [NodeKind.isNamed, Bool.and_eq_true] at hnamed
    simp only [opening, List.all_cons, Part.isNamed, hnamed.1, all_filterMap_shown? hnamed.2,
      List.all_nil, Bool.and_true]
  | link url title =>
    simp +decide only [opening, List.all_cons, Part.isNamed, all_titleAttribute, List.all_nil,
      Bool.and_true]
  | image url title =>
    simp +decide only [opening, List.all_cons, List.cons_append, List.all_append, Part.isNamed,
      all_titleAttribute, List.all_nil, Bool.and_true]
  | html value => cases hraw
  | blockQuote alert =>
    cases alert <;>
      simp +decide only [opening, textIn, List.all_cons, List.all_append, Part.isNamed,
        List.all_nil, Bool.and_true]
  | codeBlock lang code =>
    cases lang <;>
      simp +decide only [opening, textIn, List.all_cons, List.all_append, Part.isNamed,
        List.all_nil, Bool.and_true]
  | list start =>
    cases start with
    | none => rfl
    | some n =>
      simp only [opening, List.all_cons, Part.isNamed, List.all_nil]
      split <;> simp +decide only [List.all_cons, List.all_nil, Bool.and_true]
  | taskMarker checked => cases checked <;> rfl
  | _ =>
    simp +decide only [opening, textIn, List.all_cons, List.all_append, Part.isNamed,
      List.all_nil, Bool.and_true]

/-- Which labels were met changes texts, but no tags. -/
theorem tagsOf_opening (labels : List String) (n : Node) :
    tagsOf (opening labels n) = tagsOf (opening [] n) := by
  obtain ⟨kind, children, span⟩ := n
  cases kind with
  | blockQuote alert => cases alert <;> rfl
  | list start => cases start <;> rfl
  | _ => rfl

theorem all_closing {kind : NodeKind} (hnamed : kind.isNamed = true) :
    (closing kind).all Part.isNamed = true := by
  cases kind with
  | heading level id classes =>
    simp only [closing, List.all_cons, Part.isNamed, isName_headingTag, List.all_nil,
      Bool.and_true]
  | element tag attributes =>
    rw [NodeKind.isNamed, Bool.and_eq_true] at hnamed
    simp only [closing]
    split
    · rfl
    · simp only [List.all_cons, Part.isNamed, hnamed.1, List.all_nil, Bool.and_true]
  | blockQuote alert => cases alert <;> rfl
  | list start => cases start <;> rfl
  | _ => rfl

/-- Cells are elements with names. -/
theorem reads_inside {tag : String} (htag : isName tag = true) {alignment : Option Alignment}
    {within : List Part} {names : List TagName} (h : Reads within names) :
    Reads ([.start tag (alignAttribute alignment)] ++ within ++ [.stop tag])
      ([.start tag] ++ names ++ [.stop tag]) := by
  refine Reads.append (Reads.append ⟨?_, rfl⟩ h) ⟨?_, rfl⟩
  · rw [List.all_cons, Part.isNamed, htag, all_alignAttribute]
    rfl
  · rw [List.all_cons, Part.isNamed, htag]
    rfl

theorem heldTags_of_ne {kind : NodeKind} (h : ∀ alignments, kind ≠ .table alignments)
    (sections row : List TagName) :
    heldTags kind sections row = if kind.showsChildren then row else [] := by
  cases kind with
  | table alignments => exact absurd rfl (h alignments)
  | _ => rfl

theorem reads_held {n : Node} {labels labels' : List String} {within : List Part}
    {sections row : List TagName} (h : held labels n = .ok (within, labels'))
    (hsections : ∀ alignments,
      sectionParts alignments false labels n.children = .ok (within, labels') →
      Reads within sections)
    (hrow : ∀ labels, allParts labels n.children = .ok (within, labels') → Reads within row) :
    Reads within (heldTags n.kind sections row) := by
  unfold held at h
  split at h
  · rename_i alignments hkind
    have hheld : heldTags n.kind sections row = sections := by rw [hkind]; rfl
    rw [hheld]
    exact hsections alignments h
  · rename_i hkind
    rw [heldTags_of_ne hkind]
    split at h <;> rename_i hshows
    · rw [if_pos hshows]
      exact hrow _ h
    · rw [if_neg hshows]
      cases h
      exact ⟨rfl, rfl⟩

mutual
/-- **What a node is written as** are text and its tags, when nothing in it is raw markup. -/
theorem reads_nodeParts : ∀ (n : Node) {labels labels' : List String} {parts : List Part},
    n.Everywhere (·.kind.isRaw = false) → nodeParts labels n = .ok (parts, labels') →
    Reads parts (tags n)
  | ⟨kind, children, span⟩, labels, labels', parts, hraw, h => by
    obtain ⟨hself, hchildren⟩ := Node.everywhere_iff.1 hraw
    obtain ⟨hnamed, within, hheld, rfl⟩ := ok_of_nodeParts h
    have hwithin := reads_held hheld (fun _ h => reads_sectionParts children hchildren h)
      fun _ h => reads_allParts children hchildren h
    exact (Reads.append ⟨all_opening hnamed hself labels, tagsOf_opening labels _⟩ hwithin).append
      ⟨all_closing hnamed, rfl⟩
theorem reads_allParts : ∀ (ns : List Node) {labels labels' : List String} {parts : List Part},
    (∀ n ∈ ns, n.Everywhere (·.kind.isRaw = false)) → allParts labels ns = .ok (parts, labels') →
    Reads parts (tagsAll ns)
  | [], _, _, _, _, h => by
    cases h
    exact ⟨rfl, rfl⟩
  | n :: rest, _, _, _, hraw, h => by
    obtain ⟨hn, hrest⟩ := List.forall_mem_cons.1 hraw
    obtain ⟨before, met, after, hbefore, hafter, rfl⟩ := ok_of_andThen h
    exact (reads_nodeParts n hn hbefore).append (reads_allParts rest hrest hafter)
theorem reads_sectionParts : ∀ (ns : List Node) {alignments : List Alignment} {inBody : Bool}
    {labels labels' : List String} {parts : List Part},
    (∀ n ∈ ns, n.Everywhere (·.kind.isRaw = false)) →
    sectionParts alignments inBody labels ns = .ok (parts, labels') →
    Reads parts (sectionTags inBody ns)
  | [], _, inBody, _, _, _, _, h => by
    cases h
    cases inBody <;> exact ⟨rfl, rfl⟩
  | ⟨kind, children, span⟩ :: rest, _, inBody, _, _, _, hraw, h => by
    obtain ⟨hn, hrest⟩ := List.forall_mem_cons.1 hraw
    have hcells := (Node.everywhere_iff.1 hn).2
    by_cases hhead : kind = .tableHead
    · subst hhead
      obtain ⟨before, met, after, hbefore, hafter, rfl⟩ := ok_of_andThen h
      obtain ⟨within, hwithin, rfl⟩ := ok_of_between hbefore
      have hcells := reads_cellParts children (by decide) hcells hwithin
      refine Reads.append (Reads.append (Reads.append ⟨rfl, rfl⟩ hcells) ⟨rfl, rfl⟩)
        (reads_sectionParts rest hrest hafter)
    by_cases hrow : kind = .tableRow
    · subst hrow
      obtain ⟨before, met, after, hbefore, hafter, rfl⟩ := ok_of_andThen h
      obtain ⟨within, hwithin, rfl⟩ := ok_of_between hbefore
      have hcells := reads_cellParts children (by decide) hcells hwithin
      refine Reads.append (Reads.append (Reads.append ?_ hcells) ⟨rfl, rfl⟩)
        (reads_sectionParts rest hrest hafter)
      cases inBody <;> exact ⟨rfl, rfl⟩
    · rw [sectionParts_cons hhead hrow] at h
      rw [sectionTags_cons hhead hrow]
      obtain ⟨before, met, after, hbefore, hafter, rfl⟩ := ok_of_andThen h
      exact (reads_nodeParts _ hn hbefore).append (reads_sectionParts rest hrest hafter)
theorem reads_cellParts : ∀ (ns : List Node) {tag : String} {alignments : List Alignment}
    {labels labels' : List String} {parts : List Part}, isName tag = true →
    (∀ n ∈ ns, n.Everywhere (·.kind.isRaw = false)) →
    cellParts tag alignments labels ns = .ok (parts, labels') → Reads parts (cellTags tag ns)
  | [], _, _, _, _, _, _, _, h => by
    cases h
    exact ⟨rfl, rfl⟩
  | ⟨_, children, _⟩ :: rest, _, _, _, _, _, htag, hraw, h => by
    obtain ⟨hn, hrest⟩ := List.forall_mem_cons.1 hraw
    obtain ⟨before, met, after, hbefore, hafter, rfl⟩ := ok_of_andThen h
    obtain ⟨within, hwithin, rfl⟩ := ok_of_between hbefore
    have hcell := reads_allParts children (Node.everywhere_iff.1 hn).2 hwithin
    exact (reads_inside htag hcell).append (reads_cellParts rest htag hrest hafter)
end

/-! ## 4. Closed in order -/

/-- Whether reading past tags leaves the elements that were started as they were. -/
def Neutral (names : List TagName) : Prop :=
  ∀ started rest, endInOrder started (names ++ rest) = endInOrder started rest

theorem neutral_nil : Neutral [] := fun _ _ => rfl

theorem Neutral.append {a b : List TagName} (ha : Neutral a) (hb : Neutral b) :
    Neutral (a ++ b) := fun started rest => by
  rw [List.append_assoc, ha, hb]

theorem neutral_void {name : String} (h : voidElements.contains name = true) :
    Neutral [.start name] := fun started rest => by
  rw [List.singleton_append, endInOrder, if_pos h]

theorem Neutral.element {names : List TagName} (h : Neutral names) (name : String)
    (hname : voidElements.contains name = false) :
    Neutral ([.start name] ++ names ++ [.stop name]) := fun started rest => by
  rw [List.append_assoc, List.append_assoc, List.singleton_append, endInOrder, hname,
    if_neg Bool.false_ne_true, h, List.singleton_append, endInOrder, beq_self_eq_true,
    Bool.true_and]

/-- A heading has an end tag: elements that have none have letters behind their first one. -/
theorem contains_headingTag (level : Nat) :
    voidElements.contains ("h" ++ toString level) = false := by
  have hletters : ∀ tag ∈ voidElements, tag.toList.tail.all Char.isDigit = false := by decide
  refine Bool.eq_false_iff.2 fun hvoid => ?_
  have h := hletters _ (List.contains_iff_mem.1 hvoid)
  rw [toList_headingTag, List.tail_cons, List.all_eq_true.2 fun c hc =>
    Nat.isDigit_of_mem_toDigits (by decide) (by decide) hc] at h
  cases h

theorem neutral_heldTags {kind : NodeKind} {sections row : List TagName}
    (hsections : Neutral sections) (hrow : Neutral row) :
    Neutral (heldTags kind sections row) := by
  unfold heldTags
  split
  · exact hsections
  · split
    · exact hrow
    · exact neutral_nil

/-- **Each kind of node closes what it opens**, when what it holds does. -/
theorem neutral_around (n : Node) {within : List TagName} (h : Neutral within) :
    Neutral (tagsOf (opening [] n) ++ within ++ tagsOf (closing n.kind)) := by
  obtain ⟨kind, children, span⟩ := n
  cases kind with
  | root | tableHead | tableRow | tableCell | text _ | html _ | softBreak =>
    exact (neutral_nil.append h).append neutral_nil
  | hardBreak | rule | taskMarker _ | image _ _ =>
    exact ((neutral_void (by decide)).append h).append neutral_nil
  | inlineCode _ | inlineMath _ | displayMath _ =>
    exact ((neutral_nil.element _ (by decide)).append h).append neutral_nil
  | heading level id classes => exact h.element _ (contains_headingTag level)
  | blockQuote alert =>
    cases alert with
    | none => exact h.element _ (by decide)
    | some alert =>
      have htitle := neutral_nil.element "div" (by decide)
      have hcontent := h.element "div" (by decide)
      have hblock := (htitle.append hcontent).element "div" (by decide)
      simpa [tagsOf, opening, closing, textIn, List.filterMap_cons, Part.tag?] using hblock
  | codeBlock lang code =>
    have hblock := ((neutral_nil.element "code" (by decide)).append h).element "pre" (by decide)
    cases lang <;>
      simpa [tagsOf, opening, closing, textIn, List.filterMap_cons, Part.tag?] using hblock
  | list start => cases start <;> exact h.element _ (by decide)
  | footnoteReference label =>
    have hblock := ((neutral_nil.element "a" (by decide)).append h).element "sup" (by decide)
    simpa [tagsOf, opening, closing, textIn, List.filterMap_cons, Part.tag?] using hblock
  | footnoteDefinition label =>
    have hblock := ((neutral_nil.element "sup" (by decide)).append h).element "div" (by decide)
    simpa [tagsOf, opening, closing, textIn, List.filterMap_cons, Part.tag?] using hblock
  | element tag attributes =>
    cases hvoid : voidElements.contains tag with
    | false =>
      have hclosing : tagsOf (closing (.element tag attributes)) = [.stop tag] := by
        simp only [closing, hvoid]
        rfl
      rw [hclosing]
      exact h.element tag hvoid
    | true =>
      have hclosing : tagsOf (closing (.element tag attributes)) = [] := by
        simp only [closing, hvoid]
        rfl
      rw [hclosing]
      exact ((neutral_void hvoid).append h).append neutral_nil
  | _ => exact h.element _ (by decide)

/-- The first row of a table opens its body. -/
theorem endInOrder_body (inBody : Bool) (started : List String) (names : List TagName) :
    endInOrder (if inBody then "tbody" :: started else started)
        ((if inBody then [] else [.start "tbody"]) ++ names) =
      endInOrder ("tbody" :: started) names := by
  cases inBody
  · have hbody : voidElements.contains "tbody" = false := by decide
    simp only [Bool.false_eq_true, ↓reduceIte, List.singleton_append, endInOrder, hbody]
  · rfl

mutual
/-- **A node closes what it opens.** -/
theorem neutral_tags : ∀ n : Node, Neutral (tags n)
  | ⟨kind, children, span⟩ => by
    have hsections : Neutral (sectionTags false children) :=
      fun started rest => endInOrder_sectionTags children false started rest
    exact neutral_around ⟨kind, children, span⟩
      (neutral_heldTags hsections (neutral_tagsAll children))
theorem neutral_tagsAll : ∀ ns : List Node, Neutral (tagsAll ns)
  | [] => neutral_nil
  | n :: rest => (neutral_tags n).append (neutral_tagsAll rest)
/-- Behind the first row a body is open, which ends with the table. -/
theorem endInOrder_sectionTags : ∀ (ns : List Node) (inBody : Bool) (started : List String)
    (rest : List TagName),
    endInOrder (if inBody then "tbody" :: started else started) (sectionTags inBody ns ++ rest) =
      endInOrder started rest
  | [], inBody, started, rest => by
    cases inBody
    · rfl
    · simp [sectionTags, endInOrder]
  | ⟨kind, children, span⟩ :: others, inBody, started, rest => by
    by_cases hhead : kind = .tableHead
    · subst hhead
      have hcells := (neutral_cellTags children "th" (by decide)).element "tr" (by decide)
      have hsection := hcells.element "thead" (by decide)
      have ih := endInOrder_sectionTags others inBody started rest
      simpa [sectionTags] using (hsection _ _).trans ih
    by_cases hrow : kind = .tableRow
    · subst hrow
      have hcells := (neutral_cellTags children "td" (by decide)).element "tr" (by decide)
      have ih := endInOrder_sectionTags others true started rest
      have hrows := (endInOrder_body inBody started _).trans ((hcells _ _).trans ih)
      simpa only [sectionTags, List.append_assoc] using hrows
    · rw [sectionTags_cons hhead hrow, List.append_assoc, neutral_tags]
      exact endInOrder_sectionTags others inBody started rest
theorem neutral_cellTags : ∀ (ns : List Node) (tag : String), voidElements.contains tag = false →
    Neutral (cellTags tag ns)
  | [], _, _ => neutral_nil
  | ⟨_, children, _⟩ :: rest, tag, htag =>
    ((neutral_tagsAll children).element tag htag).append (neutral_cellTags rest tag htag)
end

end Markup

/-! ## 5. Without texts -/

/-- The kind without the texts it carries, attributes of generated elements among them. -/
def NodeKind.blank : NodeKind → NodeKind
  | heading level _ _ => heading level none []
  | codeBlock _ _ => codeBlock none ""
  | link _ _ => link "" ""
  | image _ _ => image "" ""
  | text _ => text ""
  | inlineCode _ => inlineCode ""
  | html _ => html ""
  | inlineMath _ => inlineMath ""
  | displayMath _ => displayMath ""
  | footnoteReference _ => footnoteReference ""
  | footnoteDefinition _ => footnoteDefinition ""
  | element tag _ => element tag Attributes.empty
  | kind => kind

theorem NodeKind.eq_of_blank_eq_tableHead {kind : NodeKind} (h : kind.blank = .tableHead) :
    kind = .tableHead := by
  cases kind <;> cases h
  rfl

theorem NodeKind.eq_of_blank_eq_tableRow {kind : NodeKind} (h : kind.blank = .tableRow) :
    kind = .tableRow := by
  cases kind <;> cases h
  rfl

mutual
/-- The shape of a tree: its nodes without texts and spans. -/
def Node.blank : Node → Node
  | ⟨kind, children, _⟩ => ⟨kind.blank, blankAll children, none⟩
/-- The shapes of a list of trees. -/
def Node.blankAll : List Node → List Node
  | [] => []
  | n :: rest => n.blank :: blankAll rest
end

namespace Markup

theorem heldTags_blank (kind : NodeKind) (sections row : List TagName) :
    heldTags kind.blank sections row = heldTags kind sections row := by
  cases kind <;> rfl

theorem tagsOf_opening_blank (kind : NodeKind) (children others : List Node) (span : Option Span) :
    tagsOf (opening [] ⟨kind.blank, others, none⟩) = tagsOf (opening [] ⟨kind, children, span⟩) := by
  cases kind with
  | blockQuote alert => cases alert <;> rfl
  | list start => cases start <;> rfl
  | codeBlock lang code => cases lang <;> rfl
  | _ => rfl

theorem closing_blank (kind : NodeKind) : closing kind.blank = closing kind := by
  cases kind <;> rfl

mutual
/-- **The tags of a tree are those of its shape.** -/
theorem tags_blank : ∀ n : Node, tags n.blank = tags n
  | ⟨kind, children, span⟩ => by
    rw [Node.blank, tags, tags, heldTags_blank, closing_blank, sectionTags_blankAll,
      tagsAll_blankAll, tagsOf_opening_blank]
theorem tagsAll_blankAll : ∀ ns : List Node, tagsAll (Node.blankAll ns) = tagsAll ns
  | [] => rfl
  | n :: rest => by rw [Node.blankAll, tagsAll, tagsAll, tags_blank, tagsAll_blankAll]
theorem sectionTags_blankAll : ∀ (ns : List Node) (inBody : Bool),
    sectionTags inBody (Node.blankAll ns) = sectionTags inBody ns
  | [], _ => rfl
  | ⟨kind, children, span⟩ :: rest, inBody => by
    have hcells (tag : String) := cellTags_blankAll children tag
    have ih (inBody : Bool) := sectionTags_blankAll rest inBody
    by_cases hhead : kind = .tableHead
    · subst hhead
      simp only [Node.blankAll, Node.blank, NodeKind.blank, sectionTags, hcells, ih]
    by_cases hrow : kind = .tableRow
    · subst hrow
      simp only [Node.blankAll, Node.blank, NodeKind.blank, sectionTags, hcells, ih]
    · have hn := tags_blank ⟨kind, children, span⟩
      have hhead' : kind.blank ≠ .tableHead := fun h => hhead (NodeKind.eq_of_blank_eq_tableHead h)
      have hrow' : kind.blank ≠ .tableRow := fun h => hrow (NodeKind.eq_of_blank_eq_tableRow h)
      rw [sectionTags_cons hhead hrow, ← hn, ← ih]
      exact sectionTags_cons hhead' hrow'
theorem cellTags_blankAll : ∀ (ns : List Node) (tag : String),
    cellTags tag (Node.blankAll ns) = cellTags tag ns
  | [], _ => rfl
  | ⟨_, children, _⟩ :: rest, tag => by
    rw [Node.blankAll, Node.blank, cellTags, cellTags, tagsAll_blankAll, cellTags_blankAll]
end

/-! ## 6. The tags of markup -/

/-- The markup of a tree without raw markup reads as the tags of what the tree holds. -/
theorem readTags?_toMarkup {tree : Node} (hraw : tree.Everywhere (·.kind.isRaw = false))
    {markup : String} (h : tree.toMarkup = .ok markup) :
    readTags? markup.toList = some (tagsAll tree.children) := by
  obtain ⟨parts, hparts, rfl⟩ := ok_of_map h
  obtain ⟨⟨written, labels⟩, hwritten, rfl⟩ := ok_of_map hparts
  have hreads := reads_allParts tree.children (Node.everywhere_iff.1 hraw).2 hwritten
  rw [Part.readTags?_writeAll (List.all_eq_true.1 hreads.named)]
  exact congrArg some hreads.tags

/-- **Texts make no tags**: the brackets in the markup of a tree without raw markup stand around tags,
which end every element that has an end tag, the last one started first; and a tree that differs from
this one in texts only is written with the same tags. -/
theorem tags_of_markup {tree : Node} (hraw : tree.Everywhere (·.kind.isRaw = false))
    {markup : String} (h : tree.toMarkup = .ok markup) :
    ∃ names, readTags? markup.toList = some names ∧ endInOrder [] names = true ∧
      ∀ other : Node, other.Everywhere (·.kind.isRaw = false) → other.blank = tree.blank →
        ∀ otherMarkup, other.toMarkup = .ok otherMarkup →
          readTags? otherMarkup.toList = some names := by
  refine ⟨tagsAll tree.children, readTags?_toMarkup hraw h, ?_, ?_⟩
  · simpa [endInOrder] using neutral_tagsAll tree.children [] []
  · intro other hother hblank otherMarkup hmarkup
    rw [readTags?_toMarkup hother hmarkup, ← tagsAll_blankAll, ← tagsAll_blankAll tree.children]
    obtain ⟨kind, children, span⟩ := tree
    obtain ⟨kind', children', span'⟩ := other
    exact congrArg (fun n => some (tagsAll n.children)) hblank

/-- A page with a note, a table and a picture frame, in which `a`, `b` and `c` are texts. -/
def noteTableFrame (a b c : String) : Node :=
  ⟨.root,
    [⟨.blockQuote (some .note), [⟨.image a b, [.text c], none⟩, .text a], none⟩,
      ⟨.table [.left], [⟨.tableHead, [⟨.tableCell, [.text a], none⟩], none⟩,
        ⟨.tableRow, [⟨.tableCell, [⟨.footnoteReference b, [], none⟩], none⟩], none⟩], none⟩,
      .element "iframe" (Attributes.ofList [("src", .text c), ("allowfullscreen", .flag true)])],
    none⟩

theorem isRaw_noteTableFrame (a b c : String) :
    (noteTableFrame a b c).Everywhere (·.kind.isRaw = false) := by
  have hall : (noteTableFrame a b c).preorder.all (·.kind.isRaw == false) = true := rfl
  exact fun n hn => eq_of_beq (List.all_eq_true.1 hall n hn)

theorem blank_noteTableFrame (a b c a' b' c' : String) :
    (noteTableFrame a b c).blank = (noteTableFrame a' b' c').blank :=
  rfl

theorem length_tags_noteTableFrame (a b c : String) :
    (tagsAll (noteTableFrame a b c).children).length = 27 :=
  rfl

theorem toMarkup_noteTableFrame :
    (noteTableFrame "<script>" "\"></div>" "'><b").toMarkup.toOption.map (fun _ => ()) = some () ∧
      (noteTableFrame "" "" "").toMarkup.toOption.map (fun _ => ()) = some () := by
  decide +kernel

/-- Script elements and quotation marks in the texts of a page are text in its markup: there are
the tags of the page without them, in order. -/
theorem tags_of_markup_scripts :
    ∃ markup names otherMarkup,
      (noteTableFrame "<script>" "\"></div>" "'><b").toMarkup = .ok markup ∧
      readTags? markup.toList = some names ∧ endInOrder [] names = true ∧ names.length = 27 ∧
      (noteTableFrame "" "" "").toMarkup = .ok otherMarkup ∧
      readTags? otherMarkup.toList = some names := by
  obtain ⟨markup, hmarkup, -⟩ := of_toOption_map toMarkup_noteTableFrame.1
  obtain ⟨otherMarkup, hotherMarkup, -⟩ := of_toOption_map toMarkup_noteTableFrame.2
  have hraw := isRaw_noteTableFrame
  obtain ⟨names, hnames, horder, hsame⟩ := tags_of_markup (hraw _ _ _) hmarkup
  have hread := readTags?_toMarkup (hraw _ _ _) hmarkup
  rw [hnames] at hread
  obtain rfl := Option.some.inj hread
  exact ⟨markup, _, otherMarkup, hmarkup, hnames, horder, length_tags_noteTableFrame _ _ _,
    hotherMarkup, hsame _ (hraw "" "" "") (blank_noteTableFrame ..) _ hotherMarkup⟩

end Markup

end WikiPage
