import SignatureSnippets.Proofs.Policies
import SignatureSnippets.Proofs.Requests
import SignatureSnippets.Proofs.Transfer

/-!
# The endpoints agree

Three endpoints answer for the same signatures, each in its own way: one gives the tree,
one an expansion, one a list of expansions. What a malformed signature leads to is
decided in two places only, by the policy of the expander and by `reply`, which turns the
result of a computation into an answer. So all three answers are first written as replies,
and how they compare is read off the results.

What is compared are the answers to valid requests, whose bodies `asked?` reads. An answer
can still be lost on its way, if a text in it cannot be encoded. Which ones arrive is said
of whole exchanges (`Arrives`).
-/

namespace SignatureSnippets.Http

/-! ## Answers as replies -/

/-- The answer to a text that is posted to an endpoint. -/
def post (settings : Settings) (endpoint : Endpoint) (text : String) : Response :=
  (respond settings endpoint.path.toList "POST" text).1

theorem exchange_post (settings : Settings) (endpoint : Endpoint) (text : String) :
    exchange settings { method := "POST", target := endpoint.path, body := text }
      = (post settings endpoint text).transfer.map fun answer =>
          (answer, (respond settings endpoint.path.toList "POST" text).2) := by
  have hpath : Target.path endpoint.path = .ok endpoint.path.toList := by
    cases endpoint <;> rfl
  have hmethod : "POST".toUpper = "POST" := by decide +kernel
  rw [exchange, hpath, hmethod]
  change (post settings endpoint text).transfer.bind _ = _
  cases (post settings endpoint text).transfer <;> rfl

/-- The answer to a text that is posted to an endpoint comes back as it is. -/
def Arrives (settings : Settings) (endpoint : Endpoint) (text : String) : Prop :=
  ∃ notices, exchange settings { method := "POST", target := endpoint.path, body := text }
    = .ok (post settings endpoint text, notices)

theorem arrives_iff {settings : Settings} {endpoint : Endpoint} {text : String} :
    Arrives settings endpoint text ↔
      (post settings endpoint text).transfer = .ok (post settings endpoint text) := by
  simp only [Arrives, exchange_post]
  cases (post settings endpoint text).transfer <;> simp [Except.map]

/-- The answer that the result of a computation leads to. -/
def reply {α : Type} (toJson : α → Json) (result : Except StructureError α) : Response :=
  match result with
  | .ok a => ⟨200, toJson a⟩
  | .error error => structureResponse error

theorem loggedResponse_fst {α : Type} (toJson : α → Json) (x : Logged α) :
    (loggedResponse toJson x).1 = reply toJson x.result := by
  rw [loggedResponse]
  cases x.result <;> rfl

/-- The answer to a request for the expansion of an item, a name and a signature. -/
def single (e : Expander) (item : String × String) : Response :=
  reply Expansion.toJson (Logged.unlessStopped (e.stop? item.2) (e.expansion item))

theorem post_expand {settings : Settings} {text : String} {asked : ExpandBody}
    (h : asked? Body.expand text = some asked) :
    post settings .expand text
      = single (.ofSettings settings asked.style) (asked.name, asked.signature) := by
  change (withBody text Body.expand (expandResponse settings)).1 = _
  rw [withBody_of_asked? h, expandResponse, loggedResponse_fst, single]
  exact congrArg _ (Expander.result_expand _ (asked.name, asked.signature))

/-- The answer to a batch of items. -/
def batchReply (e : Expander) (items : List (String × String)) : Response :=
  reply (fun expansions => .arr (expansions.map Expansion.toJson))
    (Logged.unlessStopped (items.findSome? fun item => e.stop? item.2) (items.map e.expansion))

theorem post_batch {settings : Settings} {text : String} {asked : BatchBody}
    (h : asked? Body.batch text = some asked) :
    post settings .batch text = batchReply (.ofSettings settings asked.style) asked.items := by
  change (withBody text Body.batch (batchResponse settings)).1 = _
  rw [withBody_of_asked? h, batchResponse, loggedResponse_fst, Expander.result_expandAll,
    batchReply]

/-- The answer to a request for the tree of a signature. -/
def parseReply (signature : String) : Response :=
  reply treeJson ((Signature.parse signature).map Signature.type?)

theorem post_parse {settings : Settings} {text : String} {asked : ParseBody}
    (h : asked? Body.parse text = some asked) :
    post settings .parse text = parseReply asked.signature := by
  change (withBody text Body.parse parseResponse).1 = _
  rw [withBody_of_asked? h, parseResponse, loggedResponse_fst, Signature.readType, parseReply]
  cases Signature.parse asked.signature <;> rfl

/-! ## A batch and its items -/

theorem map_post_expand {settings : Settings} {style : Option MarkerStyle}
    {items : List (String × String)} {texts : List String} (h : AskSingly style items texts) :
    texts.map (post settings .expand) = items.map (single (.ofSettings settings style)) := by
  induction h with
  | nil => rfl
  | cons htext _ ih => rw [List.map_cons, List.map_cons, post_expand htext, ih]

/-- The first of the items that is refused is the one that stops a run over all. -/
theorem find?_single (e : Expander) (items : List (String × String)) :
    (items.map (single e)).find? (fun answer => answer.status = 422)
      = (items.findSome? fun item => e.stop? item.2).map structureResponse := by
  induction items with
  | nil => rfl
  | cons item items ih =>
      rw [List.map_cons, single, List.find?_cons, List.findSome?_cons]
      cases e.stop? item.2 with
      | none => exact ih
      | some error => rfl

theorem map_single_of_unstopped {e : Expander} {items : List (String × String)}
    (h : (items.findSome? fun item => e.stop? item.2) = none) :
    items.map (single e) = items.map fun item => ⟨200, (e.expansion item).toJson⟩ := by
  refine List.map_congr_left fun item hitem => ?_
  rw [single, List.findSome?_eq_none_iff.mp h item hitem]
  rfl

theorem batchReply_of_stopped {e : Expander} {items : List (String × String)}
    {error : StructureError} (h : (items.findSome? fun item => e.stop? item.2) = some error) :
    batchReply e items = structureResponse error := by
  rw [batchReply, h]
  rfl

theorem batchReply_of_unstopped {e : Expander} {items : List (String × String)}
    (h : (items.findSome? fun item => e.stop? item.2) = none) :
    batchReply e items = ⟨200, .arr ((items.map e.expansion).map Expansion.toJson)⟩ := by
  rw [batchReply, h]
  rfl

/-- How the answer to a batch compares with the answers to its items. -/
structure BatchAgrees (singles : List Response) (batch : Response) : Prop where
  refused_iff : batch.status = 422 ↔ ∃ answer ∈ singles, answer.status = 422
  refusal : batch.status = 422 →
    singles.find? (fun answer => answer.status = 422) = some batch
  answers : (∀ answer ∈ singles, answer.status ≠ 422) →
    (∀ answer ∈ singles, answer.status = 200) ∧ batch = ⟨200, .arr (singles.map Response.body)⟩

theorem batchAgrees (e : Expander) (items : List (String × String)) :
    BatchAgrees (items.map (single e)) (batchReply e items) := by
  have hfind := find?_single e items
  cases hstop : items.findSome? fun item => e.stop? item.2 with
  | some error =>
      rw [hstop] at hfind
      rw [batchReply_of_stopped hstop]
      have hmem := List.mem_of_find?_eq_some hfind
      refine ⟨⟨fun _ => ⟨_, hmem, rfl⟩, fun _ => rfl⟩, fun _ => hfind, fun hall => ?_⟩
      exact absurd rfl (hall _ hmem)
  | none =>
      rw [batchReply_of_unstopped hstop, map_single_of_unstopped hstop]
      refine ⟨⟨nofun, ?_⟩, nofun, fun _ => ⟨?_, ?_⟩⟩
      · rintro ⟨answer, hanswer, hstatus⟩
        obtain ⟨item, _, rfl⟩ := List.mem_map.mp hanswer
        cases hstatus
      · intro answer hanswer
        obtain ⟨item, _, rfl⟩ := List.mem_map.mp hanswer
        rfl
      · rw [List.map_map, List.map_map]
        rfl

/-- The answer to a refused batch is never lost, and another one only with the answer to one
of its items. -/
theorem transfer_batchReply_iff (e : Expander) (items : List (String × String)) :
    (batchReply e items).transfer = .ok (batchReply e items) ↔
      (batchReply e items).status = 422
        ∨ ∀ answer ∈ items.map (single e), answer.transfer = .ok answer := by
  cases hstop : items.findSome? fun item => e.stop? item.2 with
  | some error =>
      rw [batchReply_of_stopped hstop]
      exact ⟨fun _ => .inl rfl, fun _ => transfer_structureResponse error⟩
  | none =>
      have harrives := transfer_expansions_iff (items.map e.expansion)
      rw [batchReply_of_unstopped hstop, map_single_of_unstopped hstop]
      rw [List.forall_mem_map] at harrives ⊢
      exact harrives.trans ⟨.inr, Or.rec nofun id⟩

/-! ## One signature, by its tree and by its expansion -/

/-- How the answers to requests for the expansion and for the tree of one signature
compare. -/
structure SingleAgrees (settings : Settings) (expand parse : Response) : Prop where
  refused_iff : expand.status = 422 ↔ settings.strict = true ∧ parse.status = 422
  refusal : expand.status = 422 → expand = parse
  lenient : settings.strict = false → expand.status = 200
    ∧ ∃ error, expand.body.get? "error" = some error
      ∧ (error ≠ .null ↔ parse.status = 422)
      ∧ (parse.status = 422 → ∃ message details,
          parse.body = .obj [("detail",
            .obj [("message", .str message), ("details", .str details)])]
          ∧ error = .str (message ++ " (" ++ details ++ ")"))

theorem get?_error_toJson (x : Expansion) :
    x.toJson.get? "error" = some (Json.ofOption .str x.error?) := rfl

theorem singleAgrees (settings : Settings) (style : Option MarkerStyle)
    (item : String × String) :
    SingleAgrees settings (single (.ofSettings settings style) item) (parseReply item.2) := by
  have herror := (Expander.ofSettings settings style).error?_expansion item
  have hstop : (Expander.ofSettings settings style).stop? item.2
      = if settings.strict then Signature.fault? item.2 else none := rfl
  rw [single, hstop, parseReply]
  cases hparse : Signature.parse item.2 with
  | ok s =>
      have hfault := Signature.fault?_eq_none_iff.mpr ⟨s, hparse⟩
      rw [hfault] at herror ⊢
      rw [ite_self]
      refine ⟨⟨nofun, nofun⟩, nofun, fun _ => ⟨rfl, _, get?_error_toJson _, ?_, nofun⟩⟩
      rw [herror]
      exact ⟨fun hne => absurd rfl hne, nofun⟩
  | error error =>
      have hfault := Signature.fault?_eq_some_iff.mpr hparse
      rw [hfault] at herror ⊢
      cases hstrict : settings.strict with
      | true =>
          refine ⟨⟨fun _ => ⟨hstrict, rfl⟩, fun _ => rfl⟩, fun _ => rfl, fun hlenient => ?_⟩
          rw [hstrict] at hlenient
          cases hlenient
      | false =>
          refine ⟨⟨nofun, fun h => ?_⟩, nofun,
            fun _ => ⟨rfl, _, get?_error_toJson _, ?_, fun _ => ?_⟩⟩
          · rw [hstrict] at h
            cases h.1
          · rw [herror]
            exact ⟨fun _ => rfl, nofun⟩
          · refine ⟨error.summary, error.details, rfl, ?_⟩
            rw [herror, ← error.message_eq]
            rfl

theorem transfer_parseReply_of_refused {signature : String}
    (h : (parseReply signature).status = 422) :
    (parseReply signature).transfer = .ok (parseReply signature) := by
  rw [parseReply] at h ⊢
  cases hparse : Signature.parse signature with
  | ok s =>
      rw [hparse] at h
      cases h
  | error error => exact transfer_structureResponse error

/-! ## All endpoints -/

/-- How the endpoints agree under given settings. -/
structure EndpointsAgree (settings : Settings) : Prop where
  /-- A refused batch always arrives, an answered one if the answers to its items do. -/
  batch : ∀ text asked, asked? Body.batch text = some asked →
    (∃ texts, AskSingly asked.style asked.items texts) ∧
    ∀ texts, AskSingly asked.style asked.items texts →
      BatchAgrees (texts.map (post settings .expand)) (post settings .batch text) ∧
      (Arrives settings .batch text ↔ (post settings .batch text).status = 422 ∨
        ∀ single ∈ texts, Arrives settings .expand single)
  parse : ∀ text asked, asked? Body.parse text = some asked →
    ((post settings .parse text).status = 422 ↔
      ∃ error, Signature.parse asked.signature = .error error)
  single : ∀ text asked, asked? Body.expand text = some asked →
    (∃ parseText, asked? Body.parse parseText = some ⟨asked.signature⟩) ∧
    ∀ parseText, asked? Body.parse parseText = some ⟨asked.signature⟩ →
      SingleAgrees settings (post settings .expand text) (post settings .parse parseText) ∧
      ((post settings .parse parseText).status = 422 → Arrives settings .parse parseText) ∧
      ((post settings .expand text).status = 422 → Arrives settings .expand text)

theorem endpointsAgree (settings : Settings) : EndpointsAgree settings where
  batch text asked htext := by
    refine ⟨exists_askSingly asked.style asked.items, fun texts htexts => ?_⟩
    have hsingles : texts.map (post settings .expand) = _ := map_post_expand htexts
    have harrives := transfer_batchReply_iff (.ofSettings settings asked.style) asked.items
    rw [← hsingles, List.forall_mem_map] at harrives
    simp only [arrives_iff]
    rw [hsingles, post_batch htext]
    exact ⟨batchAgrees _ _, harrives⟩
  parse text asked htext := by
    rw [post_parse htext, parseReply]
    cases Signature.parse asked.signature with
    | ok s => exact ⟨nofun, nofun⟩
    | error error => exact ⟨fun _ => ⟨error, rfl⟩, fun _ => rfl⟩
  single text asked htext := by
    refine ⟨exists_parse_request ⟨asked.signature⟩, fun parseText hparse => ?_⟩
    have hagrees := singleAgrees settings asked.style (asked.name, asked.signature)
    have harrives : (parseReply asked.signature).status = 422 → _ :=
      transfer_parseReply_of_refused
    simp only [arrives_iff]
    rw [post_expand htext, post_parse hparse]
    refine ⟨hagrees, harrives, fun hrefused => ?_⟩
    rw [hagrees.refusal hrefused]
    exact harrives (hagrees.refused_iff.mp hrefused).2

/-- A malformed signature in a batch, and on its own. -/
theorem endpointsAgree_malformed :
    let singles := ["\x7b\"signature\": \"fn(a)\", \"name\": \"f\"\x7d",
      "\x7b\"signature\": \"fn(a)) x\"\x7d"]
    let batch := "\x7b\"items\": [\x7b\"name\": \"f\", \"type\": \"fn(a)\"\x7d, " ++
      "\x7b\"type\": \"fn(a)) x\"\x7d]\x7d"
    let text := "\x7b\"signature\": \"fn(a)) x\"\x7d"
    (BatchAgrees (singles.map (post { strict := true } .expand))
        (post { strict := true } .batch batch)
      ∧ Arrives { strict := true } .batch batch)
      ∧ SingleAgrees {} (post {} .expand text) (post {} .parse text)
      ∧ Arrives {} .parse text := by
  intro singles batch text
  obtain ⟨hbatch, harrives⟩ :=
    ((endpointsAgree { strict := true }).batch batch
      ⟨[("f", "fn(a)"), ("", "fn(a)) x")], none⟩ (by decide +kernel)).2
      singles (.cons (by decide +kernel) (.cons (by decide +kernel) .nil))
  obtain ⟨hsingle, hparse, _⟩ :=
    ((endpointsAgree {}).single text ⟨"fn(a)) x", "", none⟩ (by decide +kernel)).2
      text (by decide +kernel)
  exact ⟨⟨hbatch, harrives.mpr (.inl (by decide +kernel))⟩, hsingle,
    hparse (by decide +kernel)⟩

end SignatureSnippets.Http
