import Mathlib.Data.List.Basic
import TransactionHarness.Curl.Request
import TransactionHarness.Text.Numeral
/-!
# What curl is told

A request becomes a list of words, and curl knows no more of it than these. An `Errand` is what can
be read from them: flag by flag, from left to right, and no flag may say again what was said before.
Nothing of a request is lost on this way, and no text in it is taken for anything else.

* `Content.ofPayload?`: what a body looks like in an errand.
* `Payload.Agrees`: bodies with the same text, fields and file.
* `Errand.follow?`: what a flag adds to an errand.
* `Errand.read?_arguments_ofRequest`: the words give the request, and so no other request has them.
-/

namespace TransactionHarness

namespace Payload

/-- The text of a JSON body. -/
def jsonText? : Payload → Option String
  | .json value => some value.render
  | _ => none

/-- The fields of a form. -/
def formFields : Payload → List (String × String)
  | .form fields => fields
  | _ => []

/-- The file that is sent, and the field that it is sent in. -/
def part? : Payload → Option (String × UploadPath)
  | .multipart field file => some (field, file)
  | _ => none

/-- The names in a body. -/
def names : Payload → List String
  | .form fields => fields.map Prod.fst
  | .multipart field _ => [field]
  | _ => []

/-- Bodies with the same text, the same fields and the same file. An empty form is as no body. -/
structure Agrees (b b' : Payload) : Prop where
  json : b.jsonText? = b'.jsonText?
  form : b.formFields = b'.formFields
  part : b.part? = b'.part?

end Payload

namespace Curl

/-! ### Names and values -/

/-- What stands in front of the first equals sign, and behind it. -/
def nameAndValue? (text : String) : Option (String × String) :=
  match text.toList.dropWhile (· != '=') with
  | [] => none
  | _ :: value => some (String.ofList (text.toList.takeWhile (· != '=')), String.ofList value)

/-- The path of a file, which stands between quotes behind an at sign. -/
def fileIn? : List Char → Option String
  | '@' :: quoted =>
    match Quoted.read? quoted with
    | some (path, []) => some (String.ofList path)
    | _ => none
  | _ => none

/-- The name in front of the first equals sign, and the path of the file behind it. -/
def nameAndFile? (text : String) : Option (String × String) :=
  (nameAndValue? text).bind fun (name, value) ↦
    (fileIn? value.toList).map fun path ↦ (name, path)

/-- What stands in front of a token. -/
def bearerMark : List Char := "Authorization: Bearer ".toList

/-- The token in a header line. -/
def tokenOf? (line : String) : Option String :=
  if bearerMark.isPrefixOf line.toList then
    some (String.ofList (line.toList.drop bearerMark.length))
  else none

theorem nameAndValue?_append {name : String} (hname : '=' ∉ name.toList) (value : String) :
    nameAndValue? (name ++ "=" ++ value) = some (name, value) := by
  have hplain : ∀ c ∈ name.toList, (c != '=') = true := fun c hc ↦
    bne_iff_ne.2 fun heq ↦ hname (heq ▸ hc)
  have htext : (name ++ "=" ++ value).toList = name.toList ++ '=' :: value.toList := by
    simp [String.toList_append]
  simp [nameAndValue?, htext, List.dropWhile_append_of_pos hplain,
    List.takeWhile_append_of_pos hplain]

theorem fileIn?_encode (path : String) :
    fileIn? ('@' :: Quoted.encode path.toList) = some path := by
  have hread : Quoted.read? (Quoted.encode path.toList) = some (path.toList, []) := by
    have happend := Quoted.read?_encode_append path.toList []
    rwa [List.append_nil] at happend
  simp only [fileIn?, hread, String.ofList_toList]

theorem fileText_eq (field path : String) :
    fileText field path = field ++ "=" ++ String.ofList ('@' :: Quoted.encode path.toList) := by
  rw [← String.toList_inj]
  simp [fileText, String.toList_append]

theorem nameAndFile?_fileText {field : String} (hfield : '=' ∉ field.toList) (path : String) :
    nameAndFile? (fileText field path) = some (field, path) := by
  simp only [nameAndFile?, fileText_eq, nameAndValue?_append hfield, Option.bind_some,
    String.toList_ofList, fileIn?_encode, Option.map_some]

theorem tokenOf?_bearerLine (token : String) : tokenOf? (bearerLine token) = some token := by
  have hline : (bearerLine token).toList = bearerMark ++ token.toList := String.toList_append
  have hprefix : bearerMark.isPrefixOf (bearerMark ++ token.toList) = true :=
    List.isPrefixOf_iff_prefix.2 (List.prefix_append bearerMark token.toList)
  simp only [tokenOf?, hline, hprefix, if_true, List.drop_left, String.ofList_toList]

theorem bearerLine_ne (token : String) : bearerLine token ≠ jsonLine := by
  intro heq
  have hnone : tokenOf? jsonLine = none := by decide
  cases (tokenOf?_bearerLine token).symm.trans (heq ▸ hnone)

/-! ### Errands -/

/-- What is told of a body. -/
structure Content where
  isJson : Bool := false
  data? : Option String := none
  /-- The fields of a form. -/
  fields : List (String × String) := []
  /-- The name of a part, and the path of the file in it. -/
  file? : Option (String × String) := none
  deriving DecidableEq, Repr

/-- What is told of a request. -/
structure Errand where
  method : Method := .get
  url : String
  token? : Option String := none
  /-- How many seconds everything may take. -/
  limit? : Option Nat := none
  content : Content := {}
  deriving DecidableEq, Repr

/-- What is to be told of a body. A path that is no text cannot be told. -/
def Content.ofPayload? : Payload → Option Content
  | .empty => some {}
  | .json value => some { isJson := true, data? := some value.render }
  | .form fields => some { fields }
  | .multipart field file => file.text?.map fun path ↦ { file? := some (field, path) }

namespace Errand

/-- What a flag adds to an errand. The answer is to be shown as it comes, so a flag that keeps it
elsewhere is refused, and so is one that says again what was said before. -/
def follow? (e : Errand) : Flag → Option Errand
  | .silent | .showHead => some e
  | .method name =>
    if e.method = .get ∧ name = Method.post.name then some { e with method := .post } else none
  | .header line =>
    if line = jsonLine then
      if e.content.isJson then none else some { e with content.isJson := true }
    else if e.token? = none then (tokenOf? line).map fun token ↦ { e with token? := some token }
    else none
  | .maxTime seconds =>
    if e.limit? = none then
      (Text.readDigits? seconds.toList).map fun limit ↦ { e with limit? := some limit }
    else none
  | .data text =>
    if e.content.data? = none then some { e with content.data? := some text } else none
  | .formField text => (nameAndValue? text).map fun field ↦
      { e with content.fields := e.content.fields ++ [field] }
  | .formPart text =>
    if e.content.file? = none then
      (nameAndFile? text).map fun part ↦ { e with content.file? := some part }
    else none
  | .output _ | .writeOut _ => none

/-- Reads the words that curl is started with. -/
def read? (words : List String) : Option Errand :=
  match Invocation.read? words with
  | some i => i.flags.foldlM follow? { url := i.url }
  | none => none

/-! ### Flag by flag -/

theorem follow_methodFlags (e : Errand) (method : Method) (he : e.method = .get) :
    (methodFlags method).foldlM follow? e = some { e with method } := by
  rcases method with - | -
  · show some e = _
    rw [← he]
  · simp [methodFlags, follow?, he, Method.name]

theorem follow_bearerFlags (e : Errand) (token? : Option String) (he : e.token? = none) :
    (bearerFlags token?).foldlM follow? e = some { e with token? } := by
  rcases token? with - | token
  · show some e = _
    rw [← he]
  · simp [bearerFlags, follow?, he, bearerLine_ne, tokenOf?_bearerLine]

theorem follow_commonFlags (timeout : Span) (r : Request) :
    (commonFlags timeout r).foldlM follow? { url := r.url } =
      some { method := r.method, url := r.url, token? := r.bearer?,
             limit? := some (limitSeconds timeout) } := by
  rw [commonFlags, List.foldlM_append, List.foldlM_append, follow_methodFlags _ r.method rfl,
    Option.bind_eq_bind, Option.bind_some, follow_bearerFlags _ r.bearer? rfl]
  simp [follow?, Text.readDigits?_toDigits]

theorem follow_fields (e : Errand) {fields : List (String × String)}
    (named : ∀ name ∈ fields.map Prod.fst, '=' ∉ name.toList) :
    (fields.map fun field ↦ Flag.formField (fieldText field)).foldlM follow? e =
      some { e with content.fields := e.content.fields ++ fields } := by
  induction fields generalizing e with
  | nil => simp
  | cons field fields ih =>
    rw [List.map_cons, List.forall_mem_cons] at named
    have hfield : nameAndValue? (fieldText field) = some field :=
      nameAndValue?_append named.1 field.2
    simp [follow?, hfield, ih _ named.2]

/-- The flags for a body add what is to be told of it. -/
theorem follow_bodyFlags {b : Payload} {flags : List Flag} (hflags : bodyFlags b = .ok flags)
    (named : ∀ name ∈ b.names, '=' ∉ name.toList) (e : Errand) (he : e.content = {}) :
    ∃ content, Content.ofPayload? b = some content ∧
      flags.foldlM follow? e = some { e with content } := by
  rcases b with - | value | fields | ⟨field, file⟩
  · cases hflags
    exact ⟨_, rfl, by rw [← he]; rfl⟩
  · cases hflags
    exact ⟨_, rfl, by simp [follow?, he]⟩
  · cases hflags
    exact ⟨_, rfl, by simp [follow_fields e named, he]⟩
  · rcases hpath : file.text? with - | path
    · simp [bodyFlags, hpath] at hflags
    · obtain rfl : [Flag.formPart (fileText field path)] = flags := by
        simpa [bodyFlags, hpath] using hflags
      have hfile := nameAndFile?_fileText (named field List.mem_cons_self) path
      refine ⟨{ file? := some (field, path) }, by simp [Content.ofPayload?, hpath], ?_⟩
      simp [follow?, he, hfile]

/-! ### Word by word -/

theorem read?_arguments {i : Invocation} (plain : Invocation.looksLikeFlag i.url = false) :
    read? i.arguments = i.flags.foldlM follow? { url := i.url } := by
  simp only [read?, Invocation.read?_arguments plain]

/-- An errand is read back from the words for a request. -/
theorem exists_read?_arguments {timeout : Span} {r : Request} {i : Invocation}
    (accepted : Invocation.ofRequest timeout r = .ok i)
    (plain : Invocation.looksLikeFlag r.url = false)
    (named : ∀ name ∈ r.body.names, '=' ∉ name.toList) :
    ∃ content, Content.ofPayload? r.body = some content ∧
      read? i.arguments =
        some ⟨r.method, r.url, r.bearer?, some (max 1 timeout.seconds), content⟩ := by
  rcases hflags : bodyFlags r.body with e | flags
  · simp [Invocation.ofRequest, hflags] at accepted
  · have hi : i = ⟨[.silent, .showHead] ++ commonFlags timeout r ++ flags, r.url⟩ := by
      simpa [Invocation.ofRequest, hflags] using accepted.symm
    have hurl : Invocation.looksLikeFlag i.url = false := by rw [hi]; exact plain
    obtain ⟨content, hcontent, hfollow⟩ := follow_bodyFlags hflags named
      { method := r.method, url := r.url, token? := r.bearer?,
        limit? := some (limitSeconds timeout) } rfl
    refine ⟨content, hcontent, ?_⟩
    show _ = some (Errand.mk r.method r.url r.bearer? (some (limitSeconds timeout)) content)
    rw [read?_arguments hurl, hi]
    simpa [follow?, follow_commonFlags] using hfollow

/-- A body is known from what is told of it. -/
theorem eq_of_ofPayload? {b : Payload} {content : Content}
    (h : Content.ofPayload? b = some content) :
    b.jsonText? = content.data? ∧ b.formFields = content.fields ∧
      b.part? = content.file?.map fun (field, path) ↦ (field, .text path) := by
  rcases b with - | value | fields | ⟨field, path | ⟨bs, illFormed⟩⟩
  · cases h
    exact ⟨rfl, rfl, rfl⟩
  · cases h
    exact ⟨rfl, rfl, rfl⟩
  · cases h
    exact ⟨rfl, rfl, rfl⟩
  · cases h
    exact ⟨rfl, rfl, rfl⟩
  · cases h

/-- **Requests as words.** If a request can be put into words, its address does not look like a flag
and no name in its body has an equals sign, then what is read from the words is the request: its
method, its address, its token, its body, and the whole seconds of the time limit, but at least one.
So two such requests have the same words only if they agree on all of it. -/
theorem read?_arguments_ofRequest {timeout : Span} {r : Request} {i : Invocation}
    (accepted : Invocation.ofRequest timeout r = .ok i)
    (plain : Invocation.looksLikeFlag r.url = false)
    (named : ∀ name ∈ r.body.names, '=' ∉ name.toList) :
    (∃ content, Content.ofPayload? r.body = some content ∧
      read? i.arguments =
        some ⟨r.method, r.url, r.bearer?, some (max 1 timeout.seconds), content⟩) ∧
    ∀ {timeout' : Span} {r' : Request} {i' : Invocation},
      Invocation.ofRequest timeout' r' = .ok i' → Invocation.looksLikeFlag r'.url = false →
      (∀ name ∈ r'.body.names, '=' ∉ name.toList) → i'.arguments = i.arguments →
      r'.method = r.method ∧ r'.url = r.url ∧ r'.bearer? = r.bearer? ∧ r'.body.Agrees r.body ∧
        max 1 timeout'.seconds = max 1 timeout.seconds := by
  obtain ⟨content, hcontent, hread⟩ := exists_read?_arguments accepted plain named
  refine ⟨⟨content, hcontent, hread⟩, fun accepted' plain' named' hsame ↦ ?_⟩
  obtain ⟨content', hcontent', hread'⟩ := exists_read?_arguments accepted' plain' named'
  rw [hsame, hread, Option.some.injEq, Errand.mk.injEq, Option.some.injEq] at hread'
  obtain ⟨hmethod, hurl, htoken, hlimit, rfl⟩ := hread'
  obtain ⟨hjson, hform, hpart⟩ := eq_of_ofPayload? hcontent
  obtain ⟨hjson', hform', hpart'⟩ := eq_of_ofPayload? hcontent'
  exact ⟨hmethod.symm, hurl.symm, htoken.symm,
    ⟨hjson'.trans hjson.symm, hform'.trans hform.symm, hpart'.trans hpart.symm⟩, hlimit.symm⟩

/-- A form whose texts all look like flags or like other parts of a request. -/
def sly : Request where
  method := .post
  url := "http://h/-X"
  bearer? := some "-d\r\nContent-Type: application/json"
  body := .form [("-F", "=@\"-o\""), ("", "--max-time"), ("-F", "-H")]

theorem read?_arguments_ofRequest_sly :
    (∃ i, Invocation.ofRequest ⟨0, 0⟩ sly = .ok i ∧
      read? i.arguments = some ⟨.post, "http://h/-X", sly.bearer?, some 1,
        { fields := [("-F", "=@\"-o\""), ("", "--max-time"), ("-F", "-H")] }⟩) ∧
    ((Request.get "/-i").withForm []).body.Agrees (Request.get "/-i").body := by
  have named : ∀ name ∈ sly.body.names, '=' ∉ name.toList := by
    refine List.forall_mem_cons.2 ⟨by decide, List.forall_mem_cons.2 ⟨by decide, ?_⟩⟩
    exact List.forall_mem_singleton.2 (by decide)
  have accepted : Invocation.ofRequest ⟨0, 0⟩ sly = .ok _ := rfl
  obtain ⟨content, hcontent, hread⟩ :=
    (read?_arguments_ofRequest accepted (by decide) named).1
  obtain rfl := Option.some.inj hcontent
  have empty : Invocation.ofRequest ⟨1, 0⟩ (Request.get "/-i") = .ok _ := rfl
  have emptyForm : Invocation.ofRequest ⟨0, 7⟩ ((Request.get "/-i").withForm []) = .ok _ := rfl
  obtain ⟨-, -, -, hagrees, -⟩ :=
    (read?_arguments_ofRequest empty (by decide) nofun).2 emptyForm (by decide) nofun rfl
  exact ⟨⟨_, accepted, hread⟩, hagrees⟩

end Errand

end Curl

end TransactionHarness
