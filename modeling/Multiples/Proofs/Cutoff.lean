import Multiples.Proofs.Envelopes

/-!
# Replies that are cut off

A connection may end anywhere, and what has arrived of a reply is some beginning of it.  A search in that beginning
finds what a search in the whole reply finds, or nothing at all; so a field that is opened and closed is read as
it was written, and one that is only opened counts as absent.

* `Text.cut?_append` — what is found in a text is found in every text that begins with it;
* `Envelope.isClosed` — a tag is opened and then closed;
* `Envelope.field?_append` — a closed field keeps its content, whatever follows;
* `Reply.decode_append` — **what is read of the beginning of a document without faults**: all, an empty list, or that
  there is no result;
* `Reply.decode_truncated` — what is read of the beginning of a written reply, for results and for faults;
* `Reply.cutoff_misread` — the beginning of a list may be read as an empty one.
-/

namespace Multiples

namespace Text

variable {mark s front rest : Text}

/-! ### Searching in the beginning of a text -/

theorem after?_append (h : after? mark s = some rest) (t : Text) : after? mark (s ++ t) = some (rest ++ t) := by
  rw [after?_eq_some] at h ⊢
  simp [h]

/-- A mark that is no longer than a text, and that the text does not begin with, cannot begin there and end later. -/
theorem after?_append_of_none (h : after? mark s = none) (hlength : mark.length ≤ s.length) (t : Text) :
    after? mark (s ++ t) = none := by
  cases hlong : after? mark (s ++ t) with
  | none => rfl
  | some r =>
    have hbegins : mark <+: s ++ t := by
      rw [after?_eq_some.1 hlong]
      exact List.prefix_append mark r
    obtain ⟨between, hbetween⟩ := List.prefix_of_prefix_length_le hbegins (List.prefix_append s t) hlength
    rw [after?_eq_some.2 hbetween.symm] at h
    exact nomatch h

theorem cut?_append (h : cut? mark s = some (front, rest)) (t : Text) :
    cut? mark (s ++ t) = some (front, rest ++ t) := by
  induction s generalizing front with
  | nil =>
    obtain ⟨r, hr, hfound⟩ := Option.map_eq_some_iff.1 h
    cases hfound
    -- only the empty mark is found in nothing
    have hempty : mark = [] ∧ rest = [] := by simpa using after?_eq_some.1 hr
    rw [hempty.1, hempty.2]
    exact cut?_self_append [] t
  | cons c s ih =>
    show cut? mark (c :: (s ++ t)) = _
    rw [cut?] at h ⊢
    cases hhere : after? mark (c :: s) with
    | some r =>
      rw [hhere] at h
      cases h
      have hmore : after? mark (c :: (s ++ t)) = some (rest ++ t) := after?_append hhere t
      simp only [hmore]
    | none =>
      rw [hhere] at h
      obtain ⟨⟨f, r⟩, hfound, hsame⟩ := Option.map_eq_some_iff.1 h
      cases hsame
      -- the mark is found later on, so it is no longer than `s`
      have hlength : mark.length ≤ (c :: s).length := by
        have hcut := congrArg List.length (cut?_eq_some hfound)
        simp only [List.length_append, List.length_cons] at hcut ⊢
        omega
      have hmore : after? mark (c :: (s ++ t)) = none := after?_append_of_none hhere hlength t
      simp only [hmore, ih hfound, Option.map_some]

theorem occurs_append (h : occurs mark s = true) (t : Text) : occurs mark (s ++ t) = true := by
  rw [occurs, Option.isSome_iff_exists] at h
  obtain ⟨⟨front, rest⟩, hfound⟩ := h
  rw [occurs, cut?_append hfound]
  rfl

end Text

namespace Envelope

variable {s tag : Text}

/-! ### Fields of the beginning of a document -/

/-- Whether a tag is opened, and then closed. -/
def isClosed (doc tag : Text) : Bool :=
  (Text.cut? (Markup.openTag tag) doc).any fun found => Text.occurs (Markup.closeTag tag) found.2

theorem hasTag_append (h : hasTag s tag = true) (t : Text) : hasTag (s ++ t) tag = true := Text.occurs_append h t

theorem hasTag_of_append {t : Text} (h : hasTag (s ++ t) tag = false) : hasTag s tag = false := by
  rw [Bool.eq_false_iff] at h ⊢
  exact fun hs => h (hasTag_append hs t)

/-- A closed tag, with what stands before, in and after it. -/
theorem isClosed_iff : isClosed s tag = true ↔ ∃ front rest raw after,
    Text.cut? (Markup.openTag tag) s = some (front, rest)
      ∧ Text.cut? (Markup.closeTag tag) rest = some (raw, after) := by
  simp [isClosed, Text.occurs, Option.any_eq_true, Option.isSome_iff_exists]

theorem isClosed_append (h : isClosed s tag = true) (t : Text) : isClosed (s ++ t) tag = true := by
  obtain ⟨front, rest, raw, after, hopen, hclose⟩ := isClosed_iff.1 h
  exact isClosed_iff.2 ⟨front, rest ++ t, raw, after ++ t, Text.cut?_append hopen t, Text.cut?_append hclose t⟩

/-- **A closed field keeps its content**, whatever follows. -/
theorem field?_append (h : isClosed s tag = true) (t : Text) : field? (s ++ t) tag = field? s tag := by
  obtain ⟨front, rest, raw, after, hopen, hclose⟩ := isClosed_iff.1 h
  rw [field?_of_cut hopen hclose, field?_of_cut (Text.cut?_append hopen t) (Text.cut?_append hclose t)]

theorem field?_of_open (h : isClosed s tag = false) : field? s tag = none := by
  rw [field?]
  cases hopen : Text.cut? (Markup.openTag tag) s with
  | none => rfl
  | some found =>
    cases hclose : Text.cut? (Markup.closeTag tag) found.2 with
    | none => simp only [hclose]
    | some content =>
      have hclosed := isClosed_iff.2 ⟨found.1, found.2, content.1, content.2, hopen, hclose⟩
      rw [h] at hclosed
      cases hclosed

theorem textField?_append (h : isClosed s tag = true) (t : Text) : textField? (s ++ t) tag = textField? s tag := by
  rw [textField?, textField?, field?_append h]

theorem intListField_append (h : isClosed s tag = true) (t : Text) (missing : List Int64) :
    intListField (s ++ t) tag missing = intListField s tag missing := by
  rw [intListField, intListField, field?_append h]

theorem hasTag_of_isClosed (h : isClosed s tag = true) : hasTag s tag = true := by
  obtain ⟨front, rest, raw, after, hopen, -⟩ := isClosed_iff.1 h
  rw [hasTag, Text.occurs, hopen]
  rfl

/-! ### Records -/

section Records

open Markup (Element Content isName openTag closeTag tagHead)

variable {name : Text} {fields : List (Text × Text)}

/-- A row as it is written, one field after the other. -/
theorem render_row_cons (f : Text × Text) (more : List (Text × Text)) :
    (row (f :: more)).render = openTag f.1 ++ (Markup.escape f.2 ++ (closeTag f.1 ++ (row more).render)) := by
  simp [row, Content.render, Content.isNothing, tagHead, openTag]

/-- What stands before the fields of a written record. -/
def before (name : Text) : Text :=
  Markup.declaration ++ (tagHead envelopeName [(spaceName, nameSpace)] ++ ['>']
    ++ (tagHead bodyName [] ++ ['>'] ++ (tagHead name [] ++ ['>'])))

theorem document_record (hfields : fields ≠ []) :
    ∃ after, document (record name fields) = before name ++ ((row fields).render ++ after) := by
  have hrow : row fields ≠ .nothing := by
    cases fields with
    | nil => exact absurd rfl hfields
    | cons f more => exact nofun
  have hrecord : (record name fields).render = tagHead name [] ++ ['>'] ++ ((row fields).render ++ closeTag name) :=
    Element.render_open hrow
  have hbody : (({ name := bodyName } : Element).child (record name fields)).render
      = tagHead bodyName [] ++ ['>'] ++ ((record name fields).render ++ closeTag bodyName) := by
    rw [Element.render_open (by exact nofun)]
    rfl
  have hwhole : (wrapped (record name fields)).render = tagHead envelopeName [(spaceName, nameSpace)] ++ ['>']
      ++ ((({ name := bodyName } : Element).child (record name fields)).render ++ closeTag envelopeName) := by
    rw [Element.render_open (by exact nofun)]
    rfl
  refine ⟨closeTag name ++ (closeTag bodyName ++ closeTag envelopeName), ?_⟩
  rw [document_eq, Element.document, hwhole, hbody, hrecord, before]
  simp only [List.append_assoc]

/-- No field is found before the fields. -/
theorem skips_before (hname : isName name = true) (ht : isName tag = true) (hne : tag ≠ name) (hbody : tag ≠ bodyName) :
    Text.Skips (openTag tag) (before name) := by
  have hspace : ∀ a ∈ [(spaceName, nameSpace)], isName a.1 = true := by
    intro a ha
    rw [List.mem_singleton.1 ha]
    decide
  apply Text.Skips.append (Markup.skips_declaration ht)
  apply Text.Skips.append
  · exact Markup.skips_tagHead ht (by decide) hspace (Or.inr rfl) (by simp)
  apply Text.Skips.append
  · exact Markup.skips_tagHead ht (by decide) (by simp) (Or.inr rfl) fun h => hbody h.1.symm
  · exact Markup.skips_tagHead ht hname (by simp) (Or.inr rfl) fun h => hne h.1.symm

end Records

end Envelope

namespace Reply

open Envelope (hasTag isClosed textField? intListField)

variable {p : Text}

/-! ### What is read of a beginning -/

theorem decode_of_fault (h : hasTag p faultMessageTag = true) : decode p
    = .ok (.fault ((textField? p faultCodeTag).getD []) ((textField? p faultMessageTag).getD [])) := by
  rw [decode, if_pos h]

theorem decode_of_no_fault (h : hasTag p faultMessageTag = false) : decode p
    = if hasTag p resultTag then (intListField p resultTag []).map .result else .error .missingResult := by
  rw [decode, h, if_neg Bool.false_ne_true]

/-- **The beginning of a document without faults** is read as the document is, if it closes the result; as an empty
list, if it only opens it; else it has no result. -/
theorem decode_append {t : Text} (h : hasTag (p ++ t) faultMessageTag = false) : decode p
    = if isClosed p resultTag then decode (p ++ t)
      else if hasTag p resultTag then .ok (.result []) else .error .missingResult := by
  rw [decode_of_no_fault (Envelope.hasTag_of_append h)]
  cases hclosed : isClosed p resultTag with
  | true =>
    have htag := Envelope.hasTag_of_isClosed hclosed
    rw [if_pos rfl, if_pos htag, decode_of_no_fault h, if_pos (Envelope.hasTag_append htag t),
      Envelope.intListField_append hclosed]
  | false =>
    rw [if_neg Bool.false_ne_true, Envelope.intListField_of_absent (Envelope.field?_of_open hclosed)]
    rfl

theorem hasTag_encodeResult (ns : List Int64) : hasTag (encodeResult ns) faultMessageTag = false := by
  rw [encodeResult_eq, Envelope.hasTag_record (by decide) rfl (by decide) (by decide) (by decide)]
  rfl

theorem hasTag_encodeFault (code message : Text) : hasTag (encodeFault code message) resultTag = false := by
  rw [encodeFault_eq, Envelope.hasTag_record (by decide) rfl (by decide) (by decide) (by decide)]
  rfl

theorem skips_faultCode : Text.Skips (Markup.openTag faultMessageTag) (Markup.openTag faultCodeTag) := by
  have hname : ¬ (faultCodeTag = faultMessageTag ∧ '>' = '>') := by decide
  exact Markup.skips_markup faultCodeTag '>' [] (by decide) (by decide) (by decide) hname (by decide)

/-- Where the message of a fault has begun, the code before it is complete. -/
theorem isClosed_faultCode {code message t : Text} (h : p ++ t = encodeFault code message)
    (hmessage : hasTag p faultMessageTag = true) : isClosed p faultCodeTag = true := by
  obtain ⟨after, hdoc⟩ := @Envelope.document_record faultName (faultRow code message) (List.cons_ne_nil _ _)
  rw [encodeFault_eq, hdoc, faultRow, Envelope.render_row_cons, Envelope.render_row_cons] at h
  simp only [List.append_assoc] at h
  rw [hasTag, Text.occurs, Option.isSome_iff_exists] at hmessage
  obtain ⟨⟨front, rest⟩, hfound⟩ := hmessage
  -- the message opens right after the code in the whole reply, so it does in the part that has arrived
  have hskip : Text.Skips (Markup.openTag faultMessageTag) (Envelope.before faultName ++ (Markup.openTag faultCodeTag
      ++ (Markup.escape code ++ Markup.closeTag faultCodeTag))) := by
    apply Text.Skips.append (Envelope.skips_before (by decide) (by decide) (by decide) (by decide))
    apply Text.Skips.append
    · exact skips_faultCode
    apply Text.Skips.append
    · exact Text.skips_of_not_mem (Markup.not_mem_escape (by decide) code)
    · exact Markup.skips_closeTag (by decide) (by decide)
  have hwhole := Text.cut?_append hfound t
  have hopens := hskip.cut?_eq (Markup.escape message ++ (Markup.closeTag faultMessageTag
    ++ ((Envelope.row []).render ++ after)))
  simp only [List.append_assoc] at hopens
  rw [h, hopens] at hwhole
  have hfront := (Prod.mk.inj (Option.some.inj hwhole)).1
  rw [Text.cut?_eq_some hfound, ← hfront, List.append_assoc]
  apply Envelope.isClosed_append
  have hbefore : Text.Skips (Markup.openTag faultCodeTag) (Envelope.before faultName) :=
    Envelope.skips_before (by decide) (by decide) (by decide) (by decide)
  have hcode : Text.Skips (Markup.closeTag faultCodeTag) (Markup.escape code) :=
    Text.skips_of_not_mem (Markup.not_mem_escape (by decide) code)
  refine Envelope.isClosed_iff.2 ⟨Envelope.before faultName, _, Markup.escape code, [], hbefore.cut?_eq _, ?_⟩
  simpa using hcode.cut?_eq []

/-- The fields of a written fault, read from the whole of it. -/
theorem textField?_encodeFault (code message : Text) :
    (textField? (encodeFault code message) faultCodeTag).getD [] = code
      ∧ (textField? (encodeFault code message) faultMessageTag).getD [] = message := by
  have hfault : hasTag (encodeFault code message) faultMessageTag = true := by
    rw [encodeFault_eq, Envelope.hasTag_record (by decide) rfl (by decide) (by decide) (by decide)]
    rfl
  have hread := decode_of_fault hfault
  rw [decode_encodeFault] at hread
  injection hread with hreply
  injection hreply with hcode hmessage
  exact ⟨hcode.symm, hmessage.symm⟩

theorem decode_truncated_encodeResult {numbers : List Int64} (hp : p <+: encodeResult numbers) : decode p
    = if isClosed p resultTag then .ok (.result numbers)
      else if hasTag p resultTag then .ok (.result []) else .error .missingResult := by
  obtain ⟨t, hdoc⟩ := hp
  have hfault : hasTag (p ++ t) faultMessageTag = false := by
    rw [hdoc]
    exact hasTag_encodeResult numbers
  rw [decode_append hfault, hdoc, decode_encodeResult]

theorem decode_truncated_encodeFault {code message : Text} (hp : p <+: encodeFault code message) : decode p
    = if isClosed p faultMessageTag then .ok (.fault code message)
      else if hasTag p faultMessageTag then .ok (.fault code []) else .error .missingResult := by
  obtain ⟨t, hdoc⟩ := hp
  obtain ⟨hcode, hmessage⟩ := textField?_encodeFault code message
  rw [← hdoc] at hcode hmessage
  cases htag : hasTag p faultMessageTag with
  | false =>
    have hopen : isClosed p faultMessageTag = false := by
      rw [Bool.eq_false_iff] at htag ⊢
      exact fun hclosed => htag (Envelope.hasTag_of_isClosed hclosed)
    have hresult : hasTag p resultTag = false := by
      apply @Envelope.hasTag_of_append p resultTag t
      rw [hdoc]
      exact hasTag_encodeFault code message
    rw [decode_of_no_fault htag, hresult, hopen]
    rfl
  | true =>
    rw [Envelope.textField?_append (isClosed_faultCode hdoc htag)] at hcode
    rw [decode_of_fault htag, hcode]
    cases hclosed : isClosed p faultMessageTag with
    | true =>
      rw [Envelope.textField?_append hclosed] at hmessage
      rw [hmessage]
      rfl
    | false =>
      rw [textField?, Envelope.field?_of_open hclosed]
      rfl

/-! ### Main statement -/

/-- **What is read of the beginning of a written reply.**  A list is read as it was written if its closing tag has
arrived, as an empty list if only its opening tag has, and as a reply without a result if not even that.  A fault is
never read as a list: its message is complete, or missing, or there is no reply. -/
theorem decode_truncated (p : Text) :
    (∀ numbers, p <+: encodeResult numbers →
      decode p = if isClosed p resultTag then .ok (.result numbers)
        else if hasTag p resultTag then .ok (.result []) else .error .missingResult)
    ∧ ∀ code message, p <+: encodeFault code message →
      decode p = if isClosed p faultMessageTag then .ok (.fault code message)
        else if hasTag p faultMessageTag then .ok (.fault code []) else .error .missingResult := by
  exact ⟨fun numbers hp => decode_truncated_encodeResult hp, fun code message hp => decode_truncated_encodeFault hp⟩

/-- Of a list, the numbers and a part of the closing tag may arrive, or all of that tag and nothing after it. -/
theorem decode_truncated_tags :
    ((encodeResult [12, -7]).take 160 <+: encodeResult [12, -7]
      ∧ decode ((encodeResult [12, -7]).take 160) = .ok (.result []))
    ∧ ((encodeResult [12, -7]).take 163 <+: encodeResult [12, -7]
      ∧ decode ((encodeResult [12, -7]).take 163) = .ok (.result [12, -7])) := by
  have hp := fun n => List.take_prefix n (encodeResult [12, -7])
  refine ⟨⟨hp 160, ?_⟩, hp 163, ?_⟩
  · rw [(decode_truncated _).1 _ (hp 160), if_neg (by decide +kernel), if_pos (by decide +kernel)]
  · rw [(decode_truncated _).1 _ (hp 163), if_pos (by decide +kernel)]

/-- What is read of the beginning of a written list need not be that list: where only its opening tag and its number have
arrived, it is read as an empty one. -/
theorem cutoff_misread : ¬ ∀ (numbers : List Int64) (p : Text), p <+: encodeResult numbers →
    ∀ read, decode p = .ok (.result read) → read = numbers := by
  intro hsame
  have hp := List.take_prefix 149 (encodeResult [5])
  have hread : decode ((encodeResult [5]).take 149) = .ok (.result []) := by
    rw [decode_truncated_encodeResult hp, if_neg (by decide +kernel), if_pos (by decide +kernel)]
  exact nomatch hsame [5] _ hp [] hread

end Reply

end Multiples
