import Mathlib.Data.List.Forall2
import Mathlib.Tactic.IntervalCases
import SignatureSnippets.Http.Service

/-!
# Valid requests

A request is valid if its body reads as JSON and passes the checks of the endpoint
(`asked?`); then the endpoint answers what was asked for and nothing else matters. Whatever
there is to ask for, there is a text that asks for it: an object whose fields are texts can
be written so that it reads back. A character written by `Json.stringChar` reads back with
anything behind it, a text up to its closing quote, a list of fields up to the closing
brace.
-/

namespace SignatureSnippets

namespace Json

/-! ## Texts -/

theorem fourDigits?_hexDigits {n : Nat} (h : n < 32) (c : Char) (rest : List Char) :
    fourDigits? (Text.hexDigits 4 n ++ c :: rest) = some (n, c :: rest) := by
  interval_cases n <;> rfl

theorem stringBody_of_escape {start done cs rest : List Char} {c : Char}
    (h : escape start cs = .ok (c, rest)) :
    stringBody start done ('\\' :: cs) = stringBody start (c :: done) rest := by
  rw [stringBody]
  split
  · next heq =>
      rw [h] at heq
      cases heq
  · next heq =>
      rw [h] at heq
      cases heq
      rfl

/-- The escape of a control character reads back. -/
theorem escape_hexDigits (start : List Char) {c : Char} (h : c < ' ') (d : Char)
    (rest : List Char) :
    escape start ('u' :: (Text.hexDigits 4 c.toNat ++ d :: rest)) = .ok (c, d :: rest) := by
  have hlt : c.toNat < 32 := h
  have hhigh : (decide (0xd800 ≤ c.toNat) && decide (c.toNat < 0xdc00)) = false := by
    rw [decide_eq_false (by omega), Bool.false_and]
  have hlow : (decide (0xdc00 ≤ c.toNat) && decide (c.toNat < 0xe000)) = false := by
    rw [decide_eq_false (by omega), Bool.false_and]
  rw [escape, if_pos rfl, fourDigits?_hexDigits hlt]
  dsimp only
  rw [hhigh, hlow, Char.ofNat_toNat]
  rfl

/-- A character reads back with anything behind it. -/
theorem stringBody_stringChar (start done : List Char) (c d : Char) (rest : List Char) :
    stringBody start done (stringChar c ++ d :: rest)
      = stringBody start (c :: done) (d :: rest) := by
  rw [stringChar]
  split
  · next h =>
      simp only [Bool.or_eq_true, decide_eq_true_eq] at h
      rcases h with rfl | rfl
      · exact stringBody_of_escape rfl
      · exact stringBody_of_escape rfl
  · next hplain =>
      simp only [Bool.or_eq_true, decide_eq_true_eq, not_or] at hplain
      split
      · next h => subst h; exact stringBody_of_escape rfl
      split
      · next h => subst h; exact stringBody_of_escape rfl
      split
      · next h => subst h; exact stringBody_of_escape rfl
      split
      · next h => subst h; exact stringBody_of_escape rfl
      split
      · next h => subst h; exact stringBody_of_escape rfl
      split
      · next h => exact stringBody_of_escape (escape_hexDigits start h d rest)
      · next h =>
          rw [List.singleton_append, stringBody, if_neg h]
          · exact hplain.1
          · exact hplain.2

theorem stringBody_text (start done : List Char) (cs rest : List Char) :
    stringBody start done (cs.flatMap stringChar ++ '"' :: rest)
      = .ok (String.ofList (done.reverse ++ cs), rest) := by
  induction cs generalizing done with
  | nil => rw [List.flatMap_nil, List.nil_append, stringBody, List.append_nil]
  | cons c cs ih =>
      obtain ⟨d, behind, hbehind⟩ :
          ∃ d behind, cs.flatMap stringChar ++ '"' :: rest = d :: behind :=
        List.exists_cons_of_ne_nil (by simp)
      rw [List.flatMap_cons, List.append_assoc, hbehind, stringBody_stringChar, ← hbehind, ih,
        List.reverse_cons, List.append_assoc]
      rfl

/-! ## Objects whose fields are texts -/

/-- A text in quotes reads back behind its opening quote. -/
theorem stringBody_stringText (text : String) (rest : List Char) :
    ∃ tail, (stringText text).toList ++ rest = '"' :: tail
      ∧ ∀ start, stringBody start [] tail = .ok (text, rest) := by
  refine ⟨text.toList.flatMap stringChar ++ '"' :: rest, ?_, fun start => ?_⟩
  · rw [stringText, String.toList_ofList, List.append_assoc]
    rfl
  · rw [stringBody_text, List.reverse_nil, List.nil_append, String.ofList_toList]

theorem skipBlanks_stringText (text : String) (rest : List Char) :
    skipBlanks ((stringText text).toList ++ rest) = (stringText text).toList ++ rest := by
  obtain ⟨tail, htail, _⟩ := stringBody_stringText text rest
  rw [htail]
  rfl

theorem value_text (frames : List Frame) (text : String) (rest : List Char) :
    value frames ((stringText text).toList ++ rest) = resume frames (.str text) rest := by
  obtain ⟨tail, htail, hbody⟩ := stringBody_stringText text rest
  rw [htail, value, if_pos rfl]
  split
  · next heq =>
      rw [hbody] at heq
      cases heq
  · next heq =>
      rw [hbody] at heq
      cases heq
      rfl

/-- The text of a field that holds a text. -/
def fieldText (f : String × String) : List Char :=
  (stringText f.1).toList ++ ':' :: (stringText f.2).toList

theorem field_fieldText (frames : List Frame) (fields : List (String × Json))
    (f : String × String) (rest : List Char) :
    field frames fields (fieldText f ++ rest)
      = resume (.obj fields f.1 :: frames) (.str f.2) rest := by
  obtain ⟨tail, htail, hbody⟩ :=
    stringBody_stringText f.1 (':' :: ((stringText f.2).toList ++ rest))
  have htext : fieldText f ++ rest = '"' :: tail := by
    rw [fieldText, List.append_assoc, List.cons_append, htail]
  rw [htext, field]
  split
  · next heq =>
      rw [hbody] at heq
      cases heq
  · next heq =>
      rw [hbody] at heq
      cases heq
      have hcolon : skipBlanks (':' :: ((stringText f.2).toList ++ rest))
          = ':' :: ((stringText f.2).toList ++ rest) := rfl
      split
      · next heq =>
          rw [hcolon] at heq
          cases heq
          rw [skipBlanks_stringText, value_text]
      · next hno => exact (hno _ hcolon).elim

theorem skipBlanks_fieldText (f : String × String) (rest : List Char) :
    ∃ tail, skipBlanks (fieldText f ++ rest) = '"' :: tail
      ∧ fieldText f ++ rest = '"' :: tail := by
  obtain ⟨tail, htail, _⟩ := stringBody_stringText f.1 (':' :: (stringText f.2).toList ++ rest)
  have htext : fieldText f ++ rest = '"' :: tail := by
    rw [fieldText, List.append_assoc, htail]
  exact ⟨tail, by rw [htext]; rfl, htext⟩

/-- The fields of an object as they come out when they are read one by one. -/
def putTexts (fields : List (String × Json)) (texts : List (String × String)) :
    List (String × Json) :=
  texts.foldl (fun fields f => putField f.1 (.str f.2) fields) fields

/-- The text of an object whose fields hold texts. -/
def objectText (f : String × String) (texts : List (String × String)) : List Char :=
  '\x7b' :: (fieldText f ++ (texts.flatMap fun f => ',' :: fieldText f) ++ ['\x7d'])

theorem resume_closing (fields : List (String × Json)) (name : String) (done : Json) :
    resume [.obj fields name] done ['\x7d'] = .ok (.obj (putField name done fields), []) := by
  have hclosing : skipBlanks ['\x7d'] = ['\x7d'] := rfl
  rw [resume]
  split
  · next heq =>
      rw [hclosing] at heq
      cases heq
  · next heq =>
      rw [hclosing] at heq
      cases heq
      rw [resume]
  · next hno => exact (hno _ hclosing).elim

theorem resume_comma (fields : List (String × Json)) (name : String) (done : Json)
    (f : String × String) (rest : List Char) :
    resume [.obj fields name] done (',' :: (fieldText f ++ rest))
      = resume [.obj (putField name done fields) f.1] (.str f.2) rest := by
  have hcomma : skipBlanks (',' :: (fieldText f ++ rest)) = ',' :: (fieldText f ++ rest) := rfl
  obtain ⟨tail, hquote, htext⟩ := skipBlanks_fieldText f rest
  rw [resume]
  split
  · next heq =>
      rw [hcomma] at heq
      cases heq
      rw [hquote, ← htext, field_fieldText]
  · next heq =>
      rw [hcomma] at heq
      cases heq
  · next hno _ => exact (hno _ hcomma).elim

theorem resume_texts (fields : List (String × Json)) (name : String) (done : Json)
    (texts : List (String × String)) :
    resume [.obj fields name] done ((texts.flatMap fun f => ',' :: fieldText f) ++ ['\x7d'])
      = .ok (.obj (putTexts (putField name done fields) texts), []) := by
  induction texts generalizing fields name done with
  | nil => exact resume_closing fields name done
  | cons f texts ih =>
      rw [List.flatMap_cons, List.cons_append, List.cons_append, List.append_assoc, resume_comma,
        ih]
      rfl

/-- The text of an object reads back as its fields, put in one by one. -/
theorem ofChars_objectText (f : String × String) (texts : List (String × String)) :
    ofChars (objectText f texts) = .ok (.obj (putTexts [(f.1, .str f.2)] texts)) := by
  have hvalue : value [] (objectText f texts)
      = .ok (.obj (putTexts [(f.1, .str f.2)] texts), []) := by
    obtain ⟨tail, hquote, htext⟩ :=
      skipBlanks_fieldText f ((texts.flatMap fun f => ',' :: fieldText f) ++ ['\x7d'])
    rw [objectText, List.append_assoc, value, if_neg (by decide), if_neg (by decide), if_pos rfl]
    split
    · next heq =>
        rw [hquote] at heq
        cases heq
    · rw [hquote, ← htext, field_fieldText, resume_texts]
      rfl
  have hdocument : document (objectText f texts)
      = .ok (.obj (putTexts [(f.1, .str f.2)] texts)) := by
    have hblanks : skipBlanks (objectText f texts) = objectText f texts := rfl
    rw [document, hblanks, hvalue]
    rfl
  rw [ofChars, hdocument]

/-! ## Bytes -/

theorem toList_loop (bytes : ByteArray) (place : Nat) (done : List UInt8) :
    ByteArray.toList.loop bytes place done = done.reverse ++ bytes.data.toList.drop place := by
  rw [ByteArray.toList.loop]
  split
  · next hlt =>
      have hplace : place < bytes.data.toList.length := hlt
      have hbyte : bytes.get! place = bytes.data.toList[place] :=
        getElem!_pos bytes.data place hlt
      rw [toList_loop, List.drop_eq_getElem_cons hplace, hbyte, List.reverse_cons,
        List.append_assoc]
      rfl
  · next hge =>
      have hplace : bytes.data.toList.length ≤ place := Nat.not_lt.mp hge
      rw [List.drop_eq_nil_of_le hplace, List.append_nil]
termination_by bytes.size - place

theorem toList_toUTF8 (cs : List Char) :
    (String.ofList cs).toUTF8.toList = cs.flatMap String.utf8EncodeChar := by
  rw [ByteArray.toList, toList_loop]
  exact List.toList_data_toByteArray

/-- What starts with a brace and a quote is taken for UTF-8. -/
theorem ofBytes_brace (bytes : List UInt8) : Encoding.ofBytes (0x7b :: 0x22 :: bytes) = .utf8 := by
  match bytes with
  | [] => rfl
  | [_] => rfl
  | _ :: _ :: _ => rfl

theorem decode?_objectText (f : String × String) (texts : List (String × String)) :
    decode? (String.ofList (objectText f texts)) = some (objectText f texts) := by
  obtain ⟨tail, _, htext⟩ :=
    skipBlanks_fieldText f ((texts.flatMap fun f => ',' :: fieldText f) ++ ['\x7d'])
  have hencoding : Encoding.ofBytes (String.ofList ('\x7b' :: '"' :: tail)).toUTF8.toList
      = .utf8 := by
    rw [toList_toUTF8]
    exact ofBytes_brace (tail.flatMap String.utf8EncodeChar)
  rw [objectText, List.append_assoc, htext, decode?, hencoding, String.toList_ofList]
  rfl

end Json

namespace Http

/-! ## Requests -/

/-- What a text asks for, if it is the body of a valid request. -/
def asked? {α : Type} (check : Json → Checked BodyViolation α) (text : String) : Option α :=
  if text = "" then none
  else do
    let cs ← Json.decode? text
    let value ← (Json.ofChars cs).toOption
    (check value).toOption

theorem withBody_of_asked? {α : Type} {check : Json → Checked BodyViolation α} {text : String}
    {asked : α} (h : asked? check text = some asked) (answer : α → Response × List Notice) :
    withBody text check answer = answer asked := by
  rw [asked?] at h
  split at h
  · cases h
  · next hne =>
      rw [withBody, if_neg hne]
      cases hcs : Json.decode? text with
      | none => simp [hcs] at h
      | some cs =>
          cases hvalue : Json.ofChars cs with
          | error fault => simp [hcs, hvalue, Except.toOption] at h
          | ok value =>
              cases hcheck : check value with
              | error found => simp [hcs, hvalue, hcheck, Except.toOption] at h
              | ok a =>
                  simp only [hcs, hvalue, hcheck, Except.toOption, Option.bind_eq_bind,
                    Option.bind_some, Option.some.injEq] at h
                  subst h
                  simp only [hvalue, hcheck]

theorem asked?_objectText {α : Type} {check : Json → Checked BodyViolation α} {asked : α}
    (f : String × String) (texts : List (String × String))
    (h : check (.obj (Json.putTexts [(f.1, .str f.2)] texts)) = .ok asked) :
    asked? check (String.ofList (Json.objectText f texts)) = some asked := by
  have hne : String.ofList (Json.objectText f texts) ≠ "" := by
    intro hempty
    have hlist := congrArg String.toList hempty
    rw [String.toList_ofList, Json.objectText] at hlist
    cases hlist
  rw [asked?, if_neg hne, Json.decode?_objectText]
  simp only [Json.ofChars_objectText, h, Except.toOption, Option.bind_eq_bind, Option.bind_some]

/-- Every signature can be asked for, with every name and in every style. -/
theorem exists_expand_request (asked : ExpandBody) :
    ∃ text, asked? Body.expand text = some asked := by
  obtain ⟨signature, name, style⟩ := asked
  cases style with
  | none => exact ⟨_, asked?_objectText ("signature", signature) [("name", name)] rfl⟩
  | some style =>
      refine ⟨_, asked?_objectText ("signature", signature)
        [("name", name), ("style", style.name)] ?_⟩
      cases style <;> rfl

theorem exists_parse_request (asked : ParseBody) :
    ∃ text, asked? Body.parse text = some asked :=
  ⟨_, asked?_objectText ("signature", asked.signature) [] rfl⟩

/-- The texts ask for items one by one, each a name and a signature, in one style. -/
def AskSingly (style : Option MarkerStyle) (items : List (String × String))
    (texts : List String) : Prop :=
  List.Forall₂ (fun item text => asked? Body.expand text = some ⟨item.2, item.1, style⟩)
    items texts

theorem exists_askSingly (style : Option MarkerStyle) (items : List (String × String)) :
    ∃ texts, AskSingly style items texts := by
  induction items with
  | nil => exact ⟨[], .nil⟩
  | cons item items ih =>
      obtain ⟨texts, htexts⟩ := ih
      obtain ⟨text, htext⟩ := exists_expand_request ⟨item.2, item.1, style⟩
      exact ⟨text :: texts, .cons htext htexts⟩

end Http

end SignatureSnippets
