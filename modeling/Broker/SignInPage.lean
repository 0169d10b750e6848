import Broker.Lib.Markup
import Broker.World
import Broker.Authorise

/-!
# The sign-in page

The page that `/oauth/authorise` answers with (`renderAuthorize`) carries the OAuth
parameters of the request in hidden fields, which are escaped, as is every text on it.

The engine that renders the template and the browser that the page is posted from are not
part of the broker (`Platform`). If they do what they are documented to do
(`Platform.Documented`), a browser posts what the page was given, whatever markup is in it
(`posted_html`), and the parameters outlive any number of sign-ins that fail
(`parameters_survive`). What a browser does not post as it is are line ends and the null
character.
-/

namespace Broker

open Py Escaping Markup

/-! ## The template -/

/-- What `markupsafe.escape` is documented to replace. -/
def htmlReplacements : List (Char × List Char) :=
  [('&', ['&', 'a', 'm', 'p', ';']), ('>', ['&', 'g', 't', ';']), ('<', ['&', 'l', 't', ';']),
    ('\'', ['&', '#', '3', '9', ';']), ('"', ['&', '#', '3', '4', ';'])]

theorem guards_html : Guards htmlReplacements := by decide

/-- The character references of `markupsafe.escape`. -/
def htmlEscapes : Escapes where
  mark := '&'
  table := htmlReplacements
  marked := by decide
  escaped := by decide
  prefixFree := by decide

/-- The expressions of the template. -/
inductive PageHole
  | errorCode | errorMessage | name | value | tenantUrl | username
  deriving DecidableEq

/-- The template between its conditions and its loop, and around the contents of its style sheet and
    of its script. -/
def headBlock : List (Piece PageHole) :=
  [.literal "<!doctype html>
<html lang=\"en\">
  <head>
    <meta charset=\"utf-8\" />
    <title>Sign in to ResourceSpace</title>
    <meta name=\"viewport\" content=\"width=device-width, initial-scale=1\" />
    <link rel=\"preconnect\" href=\"https://fonts.googleapis.com\" />
    <link rel=\"preconnect\" href=\"https://fonts.gstatic.com\" crossorigin />
    <link
      href=\"https://fonts.googleapis.com/css2?family=Space+Grotesk:wght@400;500;600&family=Atkinson+Hyperlegible+Next:wght@400;500;600&display=swap\"
      rel=\"stylesheet\"
    />
    <style>"]

def bodyBlock : List (Piece PageHole) :=
  [.literal "</style>
  </head>
  <body>
    "]

def openingBlock : List (Piece PageHole) :=
  [.literal "<main class=\"card\" role=\"main\">
      <span class=\"logo\" role=\"img\" aria-label=\"ResourceSpace\"></span>
      <h1>Sign in to ResourceSpace</h1>
      <p class=\"lead\">
        Connect your ResourceSpace tenant so you can browse its collections
        and save Canva designs back to it.
      </p>
      "]

def manualTestBlock : List (Piece PageHole) :=
  [.literal "
      <p class=\"meta\">
        Manual test mode is active. Submitting this form will show the
        issued token and session details instead of returning to Canva.
      </p>
      "]

def betweenBlock : List (Piece PageHole) := [.literal "
      "]

def errorBlock : List (Piece PageHole) :=
  [.literal "
      <p class=\"error\" role=\"alert\">
        We couldn&rsquo;t complete sign-in: <strong>", .hole .errorCode, .literal "</strong>
        "]

def errorMessageBlock : List (Piece PageHole) :=
  [.literal "
        — ", .hole .errorMessage, .literal "
        "]

def errorEndBlock : List (Piece PageHole) :=
  [.literal "
      </p>
      "]

def formBlock : List (Piece PageHole) :=
  [.literal "
      <form method=\"post\" action=\"/oauth/authorise\" autocomplete=\"on\">
        "]

def hiddenFieldBlock : List (Piece PageHole) :=
  [.literal "
        <input type=\"hidden\" name=\"", .hole .name, .literal "\" value=\"", .hole .value,
   .literal "\" />
        "]

def tenantUrlBlock : List (Piece PageHole) :=
  [.literal "
        <label for=\"tenant_url\">ResourceSpace URL</label>
        <input
          id=\"tenant_url\"
          name=\"tenant_url\"
          type=\"url\"
          required
          placeholder=\"https://your-resourcespace.example.com\"
          value=\"", .hole .tenantUrl, .literal "\"
          autocomplete=\"url\"
          spellcheck=\"false\"
          autocapitalize=\"off\"
        />
        "]

def ssoBlock : List (Piece PageHole) :=
  [.literal "
        <button type=\"submit\" name=\"auth_method\" value=\"sso\">Sign in</button>
        <p class=\"meta\">
          You will be sent to your ResourceSpace tenant to sign in. Use
          whichever method that site already offers (password, SAML, MFA,
          or an existing session).
        </p>
        "]

def passwordBlock : List (Piece PageHole) :=
  [.literal "
        <label for=\"username\">Username</label>
        <input
          id=\"username\"
          name=\"username\"
          type=\"text\"
          required
          autocomplete=\"username\"
          value=\"", .hole .username, .literal "\"
          spellcheck=\"false\"
          autocapitalize=\"off\"
        />
        <label for=\"password\">Password</label>
        <input
          id=\"password\"
          name=\"password\"
          type=\"password\"
          required
          autocomplete=\"current-password\"
        />
        <button type=\"submit\">Sign in</button>
        "]

def formEndBlock : List (Piece PageHole) :=
  [.literal "
      </form>
      "]

def ssoPrivacyBlock : List (Piece PageHole) :=
  [.literal "
      <p class=\"privacy\">
        Sign-in happens on your ResourceSpace tenant. Canva never sees
        your credentials.
      </p>
      "]

def passwordPrivacyBlock : List (Piece PageHole) :=
  [.literal "
      <p class=\"privacy\">
        Your credentials are sent only to the ResourceSpace tenant at the
        URL above to create a sign-in session. Canva never sees them.
      </p>
      "]

def footerBlock : List (Piece PageHole) :=
  [.literal "
      <div class=\"footer\">
        <span>Powered by ResourceSpace</span>
        <a href=\"https://www.resourcespace.com/\" target=\"_blank\" rel=\"noopener\">resourcespace.com</a>
      </div>
    </main>"]

def scriptBlock : List (Piece PageHole) :=
  [.literal "
    <script>"]

def endBlock : List (Piece PageHole) :=
  [.literal "</script>
  </body>
</html>"]

/-! ## Rendering -/

/-- The contents of the style sheet and of the script of the template. -/
structure PageFrame where
  styles : List Char
  script : List Char
  styles_isText : '<' ∉ styles
  script_isText : '<' ∉ script

/-- The arguments that the template is rendered with. -/
structure SignInPage where
  hiddenFields : List (String × String)
  errorCode : Option String
  errorMessage : Option String
  tenantUrl : String
  username : String
  manualTestMode : Bool
  ssoEnabled : Bool
  deriving DecidableEq, Repr

namespace SignInPage

variable (page : SignInPage)

/-- The value of an expression, for a hidden field. -/
def text (field : String × String) : PageHole → List Char
  | .errorCode => (page.errorCode.getD "").toList
  | .errorMessage => (page.errorMessage.getD "").toList
  | .name => field.1.toList
  | .value => field.2.toList
  | .tenantUrl => page.tenantUrl.toList
  | .username => page.username.toList

section

variable (escaping : List Char → List Char)

/-- The document of some pieces, whose expressions are escaped. -/
def fillPieces (texts : PageHole → List Char) (pieces : List (Piece PageHole)) : List Char :=
  pieces.flatMap fun
    | .literal s => s.toList
    | .hole h => escaping (texts h)

/-- A block of the page. -/
def block (pieces : List (Piece PageHole)) : List Char :=
  fillPieces escaping (page.text ("", "")) pieces

/-- The block of a hidden field. -/
def hiddenField (field : String × String) : List Char :=
  fillPieces escaping (page.text field) hiddenFieldBlock

/-- The blocks of the page. -/
def blocks (frame : PageFrame) : List (List Char) :=
  [page.block escaping headBlock] ++ [frame.styles] ++ [page.block escaping bodyBlock] ++
    [page.block escaping openingBlock] ++
    (if page.manualTestMode then [page.block escaping manualTestBlock] else []) ++
    [page.block escaping betweenBlock] ++
    (if truthyStr page.errorCode then
      [page.block escaping errorBlock] ++
        (if truthyStr page.errorMessage then [page.block escaping errorMessageBlock] else []) ++
        [page.block escaping errorEndBlock]
    else []) ++
    [page.block escaping formBlock] ++
    page.hiddenFields.map (page.hiddenField escaping) ++
    [page.block escaping tenantUrlBlock] ++
    [page.block escaping (if page.ssoEnabled then ssoBlock else passwordBlock)] ++
    [page.block escaping formEndBlock] ++
    [page.block escaping (if page.ssoEnabled then ssoPrivacyBlock else passwordPrivacyBlock)] ++
    [page.block escaping footerBlock] ++
    [page.block escaping scriptBlock] ++ [frame.script] ++ [page.block escaping endBlock]

/-- The document. -/
def html (frame : PageFrame) : List Char := (page.blocks escaping frame).flatten

end

/-- With the escapes of a table, pieces are rendered as a template is. -/
theorem fillPieces_escape (table : List (Char × List Char)) (texts : PageHole → List Char)
    (pieces : List (Piece PageHole)) :
    fillPieces (escape table) texts pieces = render table texts pieces := by
  refine List.flatMap_congr fun piece _ => ?_
  cases piece with
  | literal s => rfl
  | hole h => rfl

end SignInPage

/-- The keys of the hidden fields. -/
def hiddenKeys : List String :=
  ["client_id", "redirect_uri", "response_type", "state", "scope", "code_challenge",
    "code_challenge_method"]

/-- `{**defaults, **form}`. -/
def Form.over (form : Form) (defaults : List (String × String)) : Form :=
  (defaults ++ form.entries).foldl (fun d item => d.set item.1 item.2) ∅

/-- `_render_authorize`. -/
def renderAuthorize (config : RouteConfig) (queryParams : Form) (errorCode errorMessage : Option String)
    (formValues : Form) (manualTestMode : Bool) : SignInPage :=
  let resolved := if manualTestMode then queryParams.over (manualAuthorizeDefaults config) else queryParams
  { hiddenFields := hiddenKeys.map fun key =>
      (key, if formValues.field key = "" then resolved.field key else formValues.field key)
    errorCode
    errorMessage
    tenantUrl := formValues.field "tenant_url"
    username := formValues.field "username"
    manualTestMode
    ssoEnabled := config.resourceSpace.ssoEnabled }

/-- `oauth_authorise_get`. -/
def oauthAuthoriseGet (config : RouteConfig) (queryParams : Form) : SignInPage :=
  renderAuthorize config queryParams none none ∅ (shouldUseManualTestMode config queryParams)

/-! ## Posting -/

/-- The string that an attribute is read as: its character references are those of the escapes. -/
def attributeText (s : List Char) : String := String.ofList (htmlEscapes.unescape s)

/-- The types of the controls that post their own value. -/
def valueTypes : List (List Char) := [['h', 'i', 'd', 'd', 'e', 'n'], ['s', 'u', 'b', 'm', 'i', 't']]

/-- What a control posts, given what is typed into the inputs that are shown. -/
def postedField (typed : String → String) (c : Control Char) : Option (String × String) :=
  c.name.map fun name =>
    (attributeText name,
      if c.type.any valueTypes.contains then attributeText (c.value.getD [])
      else typed (attributeText name))

/-- The fields as a form: the last of those of one name counts. -/
def Form.ofFields (fields : List (String × String)) : Form :=
  fields.foldl (fun form field => form.set field.1 field.2) ∅

/-- The form that the controls of a document give, by HTML's rules for forms. -/
def posted (doc : List Char) (typed : String → String) : Form :=
  .ofFields ((formControls doc).filterMap (postedField typed))

/-! ## What the broker relies on -/

theorem notMem_toList {s : String} {l : List Char} (h : s = String.ofList l) {c : Char} (hc : c ∉ l) :
    c ∉ s.toList := by
  rwa [h, String.toList_ofList]

/-- A browser posts the text as it is: it normalises the ends of lines, and replaces null
    characters. -/
def IsPostable (s : String) : Prop := ∀ c ∈ s.toList, c ∉ ['\n', '\r', '\x00']

instance (s : String) : Decidable (IsPostable s) := List.decidableBAll _ _

/-- The values of the inputs of the page are posted as they are. -/
structure SignInPage.IsPostable (page : SignInPage) : Prop where
  hiddenFields : ∀ field ∈ page.hiddenFields, Broker.IsPostable field.1 ∧ Broker.IsPostable field.2
  tenantUrl : Broker.IsPostable page.tenantUrl
  username : Broker.IsPostable page.username

/-- The template engine, and a browser. -/
structure Platform where
  /-- `markupsafe.escape`. -/
  escaping : List Char → List Char
  /-- `_ENV.get_template("authorize.html").render`, with the arguments of the page. -/
  renders : SignInPage → List Char
  /-- The form that the broker is posted from a document, given what is typed into the inputs
      that are shown. -/
  posts : List Char → (String → String) → Form

/-- What the engine and browsers are documented to do: five characters are escaped; the expressions
    of the template are, and its conditions and its loop select its blocks; and what is posted from
    a page are the values of its controls, which those that are typed into make of what is typed. -/
structure Platform.Documented (platform : Platform) (frame : PageFrame) : Prop where
  escapes : ∀ s, platform.escaping s = escape htmlReplacements s
  renders : ∀ page : SignInPage, platform.renders page = page.html platform.escaping frame
  posts : ∀ page : SignInPage, page.IsPostable → ∀ typed, (∀ name, IsPostable (typed name)) →
    ∃ values, (∀ name, IsPostable (values name)) ∧
      platform.posts (platform.renders page) typed = posted (platform.renders page) values

/-! ## The blocks of the page -/

/-- The blocks without controls. -/
def plainBlocks : List (List (Piece PageHole)) :=
  [headBlock, bodyBlock, openingBlock, manualTestBlock, betweenBlock, errorBlock, errorMessageBlock,
    errorEndBlock, formBlock, formEndBlock, ssoPrivacyBlock, passwordPrivacyBlock, footerBlock,
    scriptBlock, endBlock]

section Blocks

set_option maxRecDepth 10000

theorem hasControls_plain : ∀ pieces ∈ plainBlocks, HasControls pieces [] := by
  simp only [plainBlocks, List.forall_mem_cons]
  refine ⟨.of_spells (.literal rfl .nil) ?_, .of_spells (.literal rfl .nil) ?_,
    .of_spells (.literal rfl .nil) ?_, .of_spells (.literal rfl .nil) ?_,
    .of_spells (.literal rfl .nil) ?_, .of_spells (.literal rfl <| .hole _ <| .literal rfl .nil) ?_,
    .of_spells (.literal rfl <| .hole _ <| .literal rfl .nil) ?_, .of_spells (.literal rfl .nil) ?_,
    .of_spells (.literal rfl .nil) ?_, .of_spells (.literal rfl .nil) ?_,
    .of_spells (.literal rfl .nil) ?_, .of_spells (.literal rfl .nil) ?_,
    .of_spells (.literal rfl .nil) ?_, .of_spells (.literal rfl .nil) ?_,
    .of_spells (.literal rfl .nil) ?_, fun pieces hpieces => absurd hpieces List.not_mem_nil⟩
  all_goals decide +kernel

theorem hasControls_hiddenField : HasControls hiddenFieldBlock
    [⟨some (['h', 'i', 'd', 'd', 'e', 'n'].map .char), some [.hole .name], some [.hole .value]⟩] :=
  .of_spells (.literal rfl <| .hole _ <| .literal rfl <| .hole _ <| .literal rfl .nil)
    (by decide +kernel)

theorem hasControls_tenantUrl : HasControls tenantUrlBlock
    [⟨some (['u', 'r', 'l'].map .char),
      some (['t', 'e', 'n', 'a', 'n', 't', '_', 'u', 'r', 'l'].map .char), some [.hole .tenantUrl]⟩] :=
  .of_spells (.literal rfl <| .hole _ <| .literal rfl .nil) (by decide +kernel)

theorem hasControls_sso : HasControls ssoBlock
    [⟨some (['s', 'u', 'b', 'm', 'i', 't'].map .char),
      some (['a', 'u', 't', 'h', '_', 'm', 'e', 't', 'h', 'o', 'd'].map .char),
      some (['s', 's', 'o'].map .char)⟩] :=
  .of_spells (.literal rfl .nil) (by decide +kernel)

theorem hasControls_password : HasControls passwordBlock
    [⟨some (['t', 'e', 'x', 't'].map .char),
        some (['u', 's', 'e', 'r', 'n', 'a', 'm', 'e'].map .char), some [.hole .username]⟩,
      ⟨some (['p', 'a', 's', 's', 'w', 'o', 'r', 'd'].map .char),
        some (['p', 'a', 's', 's', 'w', 'o', 'r', 'd'].map .char), none⟩,
      ⟨some (['s', 'u', 'b', 'm', 'i', 't'].map .char), none, none⟩] :=
  .of_spells (.literal rfl <| .hole _ <| .literal rfl .nil) (by decide +kernel)

end Blocks

/-- The documents are blocks, from which these fields are posted. -/
def Posts (typed : String → String) (blocks : List (List Char)) (fields : List (String × String)) :
    Prop :=
  (∀ block ∈ blocks, IsBlock block) ∧
    (blocks.flatMap formControls).filterMap (postedField typed) = fields

section Posting

variable {typed : String → String}

theorem Posts.append {blocks blocks' : List (List Char)} {fields fields' : List (String × String)}
    (h : Posts typed blocks fields) (h' : Posts typed blocks' fields') :
    Posts typed (blocks ++ blocks') (fields ++ fields') := by
  obtain ⟨hblocks, rfl⟩ := h
  obtain ⟨hblocks', rfl⟩ := h'
  exact ⟨List.forall_mem_append.2 ⟨hblocks, hblocks'⟩, by
    rw [List.flatMap_append, List.filterMap_append]⟩

theorem Posts.nil : Posts typed [] [] := ⟨fun _ h => absurd h List.not_mem_nil, rfl⟩

theorem Posts.ite {p : Prop} [Decidable p] {blocks : List (List Char)} (h : Posts typed blocks []) :
    Posts typed (if p then blocks else []) [] := by
  split_ifs
  · exact h
  · exact .nil

/-- A template posts what its controls do, filled. -/
theorem Posts.of_hasControls (typed : String → String) {pieces : List (Piece PageHole)} {cs : List (Control (Symbol PageHole))}
    (h : HasControls pieces cs) (texts : PageHole → List Char) :
    Posts typed [render htmlReplacements texts pieces]
      ((cs.map (Control.map (fill htmlReplacements texts))).filterMap (postedField typed)) := by
  obtain ⟨hblock, hcontrols⟩ := formControls_render guards_html h texts
  refine ⟨List.forall_mem_singleton.2 hblock, ?_⟩
  rw [List.flatMap_singleton, hcontrols]

theorem attributeText_hole (texts : PageHole → List Char) {hole : PageHole} {s : String}
    (h : texts hole = s.toList) :
    attributeText (fill htmlReplacements texts [.hole hole]) = s := by
  have hread : htmlEscapes.unescape (fill htmlReplacements texts [.hole hole]) = texts hole :=
    unescape_hole htmlEscapes texts hole
  rw [attributeText, hread, h, String.ofList_toList]

/-- What a control of a template posts. -/
theorem postedField_map (texts : PageHole → List Char) (type : List Char)
    (name : List (Symbol PageHole)) (value : Option (List (Symbol PageHole))) :
    postedField typed (Control.map (fill htmlReplacements texts)
        ⟨some (type.map .char), some name, value⟩) =
      some (attributeText (fill htmlReplacements texts name),
        if valueTypes.contains type then
          attributeText ((value.map (fill htmlReplacements texts)).getD [])
        else typed (attributeText (fill htmlReplacements texts name))) := by
  rw [Control.map, Option.map_some, fill_map_char]
  rfl

variable (page : SignInPage)

theorem posts_plain {pieces : List (Piece PageHole)} (h : pieces ∈ plainBlocks) :
    Posts typed [page.block (escape htmlReplacements) pieces] [] := by
  rw [SignInPage.block, SignInPage.fillPieces_escape]
  exact Posts.of_hasControls typed (hasControls_plain pieces h) _

theorem posts_text {s : List Char} (h : '<' ∉ s) : Posts typed [s] [] := by
  obtain ⟨hblock, hcontrols⟩ := formControls_of_notMem h
  refine ⟨List.forall_mem_singleton.2 hblock, ?_⟩
  rw [List.flatMap_singleton, hcontrols]
  rfl

theorem posts_hiddenFields (fields : List (String × String)) :
    Posts typed (fields.map (page.hiddenField (escape htmlReplacements))) fields := by
  induction fields with
  | nil => exact .nil
  | cons field fields ih =>
    have hfield := Posts.of_hasControls typed hasControls_hiddenField (page.text field)
    rw [List.map_singleton, List.filterMap_cons, postedField_map, attributeText_hole _ rfl,
      Option.map_some, Option.getD_some, attributeText_hole _ rfl, ← SignInPage.fillPieces_escape]
      at hfield
    exact hfield.append ih

theorem posts_tenantUrl :
    Posts typed [page.block (escape htmlReplacements) tenantUrlBlock]
      [("tenant_url", typed "tenant_url")] := by
  have hfield := Posts.of_hasControls typed hasControls_tenantUrl (page.text ("", ""))
  rw [List.map_singleton, List.filterMap_cons, postedField_map, fill_map_char,
    ← SignInPage.fillPieces_escape] at hfield
  exact hfield

theorem posts_method :
    Posts typed
      [page.block (escape htmlReplacements) (if page.ssoEnabled then ssoBlock else passwordBlock)]
      (if page.ssoEnabled then [("auth_method", "sso")]
        else [("username", typed "username"), ("password", typed "password")]) := by
  split_ifs
  · have hfield := Posts.of_hasControls typed hasControls_sso (page.text ("", ""))
    rw [List.map_singleton, List.filterMap_cons, postedField_map, fill_map_char, Option.map_some,
      fill_map_char, ← SignInPage.fillPieces_escape] at hfield
    exact hfield
  · have hfields := Posts.of_hasControls typed hasControls_password (page.text ("", ""))
    rw [List.map_cons (f := Control.map _), List.map_cons (f := Control.map _), List.filterMap_cons,
      postedField_map, List.filterMap_cons, postedField_map, fill_map_char, fill_map_char,
      ← SignInPage.fillPieces_escape] at hfields
    exact hfields

/-- What is posted from a page. -/
def SignInPage.fields (typed : String → String) : List (String × String) :=
  page.hiddenFields ++ [("tenant_url", typed "tenant_url")] ++
    if page.ssoEnabled then [("auth_method", "sso")]
    else [("username", typed "username"), ("password", typed "password")]

theorem posts_blocks (typed : String → String) (frame : PageFrame) :
    Posts typed (page.blocks (escape htmlReplacements) frame) (page.fields typed) := by
  have hplain : ∀ pieces ∈ plainBlocks,
      Posts typed [page.block (escape htmlReplacements) pieces] [] := fun pieces h => posts_plain page h
  simp only [plainBlocks, List.forall_mem_cons] at hplain
  obtain ⟨hhead, hbody, hopening, hmanual, hbetween, herror, hmessage, herrorEnd, hform, hformEnd,
    hsso, hpassword, hfooter, hscript, hend, -⟩ := hplain
  have hprivacy : Posts typed [page.block (escape htmlReplacements)
      (if page.ssoEnabled then ssoPrivacyBlock else passwordPrivacyBlock)] [] := by
    split_ifs
    · exact hsso
    · exact hpassword
  have hmanual := hmanual.ite (p := page.manualTestMode = true)
  have herror := ((herror.append (hmessage.ite (p := truthyStr page.errorMessage = true))).append
    herrorEnd).ite (p := truthyStr page.errorCode = true)
  have hstart := (((((hhead.append (posts_text frame.styles_isText)).append hbody).append
    hopening).append hmanual).append hbetween).append herror
  have hfields := ((hstart.append hform).append (posts_hiddenFields page page.hiddenFields)).append
    (posts_tenantUrl page)
  have hblocks := (((((hfields.append (posts_method page)).append hformEnd).append hprivacy).append
    hfooter).append hscript).append (posts_text frame.script_isText) |>.append hend
  simp only [List.nil_append, List.append_nil] at hblocks
  exact hblocks

/-- The controls of the page give the hidden fields as the page was given them, and what is typed. -/
theorem posted_html (typed : String → String) (frame : PageFrame) :
    posted (page.html (escape htmlReplacements) frame) typed = .ofFields (page.fields typed) := by
  obtain ⟨hblocks, hfields⟩ := posts_blocks page typed frame
  rw [posted, SignInPage.html, (formControls_flatten hblocks).2, hfields]

/-- What is posted from a page whose values are posted as they are. -/
theorem Platform.Documented.posts_renders {platform : Platform} {frame : PageFrame}
    (documented : platform.Documented frame) (postable : page.IsPostable) {typed : String → String}
    (typing : ∀ name, IsPostable (typed name)) :
    ∃ values, (∀ name, IsPostable (values name)) ∧
      platform.posts (platform.renders page) typed = .ofFields (page.fields values) := by
  have hescaping : platform.escaping = escape htmlReplacements := funext documented.escapes
  obtain ⟨values, hvalues, hposts⟩ := documented.posts page postable typed typing
  refine ⟨values, hvalues, ?_⟩
  rw [hposts, documented.renders, hescaping, posted_html]

end Posting

/-! ## Sign-ins that fail -/

/-- A sign-in that fails: what is typed, and the error that the page then shows. -/
structure FailedSignIn where
  rate : RateLimitResult
  typed : String → String
  errorCode : String
  errorMessage : Option String

/-- What the GET request gives for a parameter. -/
def oauthParameter (config : RouteConfig) (queryParams : Form) (key : String) : String :=
  (if shouldUseManualTestMode config queryParams then
    queryParams.over (manualAuthorizeDefaults config) else queryParams).field key

section Retrying

variable (platform : Platform) (unicode : Unicode) (config : RouteConfig)

/-- The page after a sign-in from a page fails, if its parameters pass the checks of the
    route. Only the page of a password sign-in keeps to the manual mode. -/
def retry (doc : List Char) (failed : FailedSignIn) : Option (List Char) :=
  let form := platform.posts doc failed.typed
  match oauthAuthorizePost config failed.rate form with
  | .inl _ => none
  | .inr call =>
    some (platform.renders (renderAuthorize config ∅ (some failed.errorCode) failed.errorMessage
      call.body (!call.isSso unicode && shouldUseManualTestMode config form)))

/-- The page after some sign-ins from it fail. -/
def retried (queryParams : Form) (failures : List FailedSignIn) : Option (List Char) :=
  failures.foldlM (retry platform unicode config)
    (platform.renders (oauthAuthoriseGet config queryParams))

variable {platform unicode config} {frame : PageFrame}

theorem ofFields_get? {fields : List (String × String)} (h : (fields.map Prod.fst).Nodup)
    {key value : String} (hmem : (key, value) ∈ fields) :
    (Form.ofFields fields).get? key = some value := by
  have hentries := Dict.entries_foldl_set Prod.fst Prod.snd (∅ : Form) h fun _ _ => rfl
  refine ((Form.ofFields fields).mem_entries_iff).1 ?_
  rw [Form.ofFields, hentries]
  refine List.mem_append_right _ (List.mem_map.2 ⟨(key, value), hmem, rfl⟩)

/-- What holds of the values of all fields holds of what the form reads. -/
theorem forall_field_ofFields {p : String → Prop} (hempty : p "") {fields : List (String × String)}
    (h : ∀ field ∈ fields, p field.2) (key : String) : p ((Form.ofFields fields).field key) := by
  have hget : ∀ value, (Form.ofFields fields).get? key = some value → p value := by
    induction fields using List.reverseRecOn with
    | nil => exact fun value hvalue => nomatch hvalue
    | append_singleton fields field ih =>
      intro value hvalue
      rw [Form.ofFields, List.foldl_append, List.foldl_cons, List.foldl_nil, Dict.get?_set] at hvalue
      split_ifs at hvalue
      · obtain rfl := Option.some.inj hvalue
        exact h field (by simp)
      · exact ih (fun field hfield => h field (List.mem_append_left _ hfield)) value hvalue
  rw [Form.field]
  cases hvalue : (Form.ofFields fields).get? key with
  | none => exact hempty
  | some value => exact hget value hvalue

/-- A page whose hidden fields are these values posts them. -/
theorem posted_hidden (page : SignInPage) {value : String → String}
    (h : page.hiddenFields = hiddenKeys.map fun key => (key, value key)) (typed : String → String)
    {key : String} (hkey : key ∈ hiddenKeys) :
    (Form.ofFields (page.fields typed)).get? key = some (value key) := by
  refine ofFields_get? ?_ ?_
  · rw [SignInPage.fields, h]
    split_ifs
    · simp [hiddenKeys]
    · simp [hiddenKeys]
  · rw [SignInPage.fields, h, List.append_assoc]
    exact List.mem_append_left _ (List.mem_map.2 ⟨key, hkey, rfl⟩)

theorem isPostable_empty : IsPostable "" := fun c hc => by cases hc

theorem isPostable_of_hiddenKeys : ∀ key ∈ hiddenKeys, IsPostable key := by
  decide +kernel

/-- The values of a page that is rendered again are postable if those that were posted are. -/
theorem isPostable_fields {page : SignInPage} (postable : page.IsPostable) {typed : String → String}
    (typing : ∀ name, IsPostable (typed name)) :
    ∀ field ∈ page.fields typed, IsPostable field.2 := by
  intro field hfield
  rw [SignInPage.fields, List.mem_append, List.mem_append, List.mem_singleton] at hfield
  rcases hfield with (hfield | rfl) | hfield
  · exact (postable.hiddenFields field hfield).2
  · exact typing _
  · split_ifs at hfield
    · obtain rfl := List.mem_singleton.1 hfield
      exact (by decide +kernel : IsPostable "sso")
    · simp only [List.mem_cons, List.not_mem_nil, or_false] at hfield
      rcases hfield with rfl | rfl
      · exact typing _
      · exact typing _

theorem setDefault_get? (items : List (String × String)) {form : Form} {key value : String}
    (h : form.get? key = some value) :
    (items.foldl Form.setDefault form).get? key = some value := by
  induction items generalizing form with
  | nil => exact h
  | cons item items ih =>
    refine ih ?_
    rw [Form.setDefault]
    split_ifs with hcontains
    · exact h
    · rw [Dict.get?_set]
      split_ifs with heq
      · subst heq
        rw [Dict.contains, h] at hcontains
        exact absurd rfl hcontains
      · exact h

/-- A request that passes the checks has the parameters of its form. -/
theorem call_of_posted {rate : RateLimitResult} {form : Form} {call : AuthorizeCall}
    {value : String → String} (hform : ∀ key ∈ hiddenKeys, form.get? key = some (value key))
    (h : oauthAuthorizePost config rate form = .inr call) :
    shouldUseManualTestMode config form = false ∧ call.body = form ∧
      (∀ key ∈ hiddenKeys, call.body.field key = value key) ∧
      call.request = ⟨value "client_id", value "redirect_uri",
        if value "scope" = "" then "openid dam:read" else value "scope",
        some (value "code_challenge"),
        some (if value "code_challenge_method" = "" then "S256" else value "code_challenge_method")⟩ ∧
      call.state = value "state" := by
  have hbody : ∀ key ∈ hiddenKeys,
      (if shouldUseManualTestMode config form = true then
        (manualAuthorizeDefaults config).foldl Form.setDefault form else form).field key = value key := by
    intro key hkey
    rw [Form.field]
    split_ifs
    · rw [setDefault_get? _ (hform key hkey), Option.getD_some]
    · rw [hform key hkey, Option.getD_some]
  have hmanual : shouldUseManualTestMode config form = true → value "client_id" = "" := by
    intro hmanual
    rw [shouldUseManualTestMode, Bool.and_eq_true, List.all_eq_true] at hmanual
    have hempty := of_decide_eq_true (hmanual.2 "client_id" (by simp))
    rwa [Form.field, hform "client_id" (by simp [hiddenKeys]), Option.getD_some] at hempty
  have hplain : shouldUseManualTestMode config form = false →
      (if shouldUseManualTestMode config form = true then
        (manualAuthorizeDefaults config).foldl Form.setDefault form else form) = form :=
    fun h => if_neg (Bool.eq_false_iff.1 h)
  rw [oauthAuthorizePost] at h
  dsimp only at h
  generalize (if shouldUseManualTestMode config form = true then _ else form) = body at h hbody hplain
  have hkeys := hbody
  simp only [hiddenKeys, List.forall_mem_cons] at hkeys
  obtain ⟨hclient, hredirect, -, hstate, hscope, hchallenge, hmethod, -⟩ := hkeys
  rw [hclient, hredirect, hstate, hscope, hchallenge, hmethod] at h
  generalize (if value "scope" = "" then _ else _) = scope at h ⊢
  generalize (if value "code_challenge_method" = "" then _ else _) = method at h ⊢
  split_ifs at h with _ hmissing
  obtain rfl := Sum.inr.inj h
  have hnotManual := Bool.eq_false_iff.2 fun h => hmissing (.inr (.inl (hmanual h)))
  exact ⟨hnotManual, hplain hnotManual, hbody, rfl, rfl⟩

/-- The page after any number of sign-ins that fail has the parameters of the first, and values
    that are posted as they are. -/
theorem retried_page (documented : platform.Documented frame) {queryParams : Form}
    (postable : ∀ key ∈ hiddenKeys, IsPostable (oauthParameter config queryParams key))
    {failures : List FailedSignIn}
    (typing : ∀ failed ∈ failures, ∀ name, IsPostable (failed.typed name)) {doc : List Char}
    (h : retried platform unicode config queryParams failures = some doc) :
    ∃ page : SignInPage, doc = platform.renders page ∧ page.IsPostable ∧
      page.hiddenFields = hiddenKeys.map fun key => (key, oauthParameter config queryParams key) := by
  have hhidden : ∀ field ∈ hiddenKeys.map fun key => (key, oauthParameter config queryParams key),
      IsPostable field.1 ∧ IsPostable field.2 := by
    intro field hfield
    obtain ⟨key, hkey, rfl⟩ := List.mem_map.1 hfield
    exact ⟨isPostable_of_hiddenKeys key hkey, postable key hkey⟩
  induction failures using List.reverseRecOn generalizing doc with
  | nil =>
    obtain rfl := Option.some.inj h
    exact ⟨_, rfl, ⟨hhidden, isPostable_empty, isPostable_empty⟩, rfl⟩
  | append_singleton failures failed ih =>
    rw [retried, List.foldlM_append] at h
    obtain ⟨doc', hdoc', h⟩ := Option.bind_eq_some_iff.1 h
    obtain ⟨page, rfl, hpostable, hpage⟩ :=
      ih (fun failed hfailed => typing failed (List.mem_append_left _ hfailed)) hdoc'
    rw [List.foldlM_cons] at h
    obtain ⟨doc'', hretry, h⟩ := Option.bind_eq_some_iff.1 h
    obtain rfl := Option.some.inj h
    have htyped := typing failed (List.mem_append_right _ (List.mem_singleton_self _))
    obtain ⟨values, htyped, hposts⟩ := documented.posts_renders page hpostable htyped
    rw [retry, hposts] at hretry
    cases hposted : oauthAuthorizePost config failed.rate (.ofFields (page.fields values)) with
    | inl response =>
      rw [hposted] at hretry
      cases hretry
    | inr call =>
      obtain ⟨hmanual, hform, hbody, -, -⟩ :=
        call_of_posted (fun key hkey => posted_hidden page hpage values hkey) hposted
      have hvalues := forall_field_ofFields isPostable_empty (isPostable_fields hpostable htyped)
      rw [hposted] at hretry
      dsimp only at hretry
      rw [hmanual, Bool.and_false] at hretry
      obtain rfl := Option.some.inj hretry
      have hfields : (renderAuthorize config ∅ (some failed.errorCode) failed.errorMessage call.body
          false).hiddenFields =
            hiddenKeys.map fun key => (key, oauthParameter config queryParams key) := by
        refine List.map_congr_left fun key hkey => ?_
        -- What the body has is not empty, or was empty on the page before, and the POST has no query.
        rw [hbody key hkey]
        by_cases hempty : oauthParameter config queryParams key = ""
        · rw [if_pos hempty, hempty]
          rfl
        · rw [if_neg hempty]
      refine ⟨_, rfl, ⟨hfields ▸ hhidden, ?_, ?_⟩, hfields⟩
      · exact hform ▸ hvalues "tenant_url"
      · exact hform ▸ hvalues "username"

/-- However often a sign-in from the page fails, the form that a browser posts from it has the
    OAuth parameters of the GET request, and the sign-in that passes is for these. -/
theorem parameters_survive (documented : platform.Documented frame) {queryParams : Form}
    (postable : ∀ key ∈ hiddenKeys, IsPostable (oauthParameter config queryParams key))
    {failures : List FailedSignIn}
    (typing : ∀ failed ∈ failures, ∀ name, IsPostable (failed.typed name)) {doc : List Char}
    (h : retried platform unicode config queryParams failures = some doc) {typed : String → String}
    (typed_postable : ∀ name, IsPostable (typed name)) :
    (∀ key ∈ hiddenKeys,
      (platform.posts doc typed).get? key = some (oauthParameter config queryParams key)) ∧
    ∀ rate call, oauthAuthorizePost config rate (platform.posts doc typed) = .inr call →
      call.request =
          ⟨oauthParameter config queryParams "client_id",
            oauthParameter config queryParams "redirect_uri",
            if oauthParameter config queryParams "scope" = "" then "openid dam:read"
            else oauthParameter config queryParams "scope",
            some (oauthParameter config queryParams "code_challenge"),
            some (if oauthParameter config queryParams "code_challenge_method" = "" then "S256"
              else oauthParameter config queryParams "code_challenge_method")⟩ ∧
        call.state = oauthParameter config queryParams "state" := by
  obtain ⟨page, rfl, hpostable, hpage⟩ := retried_page documented postable typing h
  obtain ⟨values, -, hposts⟩ := documented.posts_renders page hpostable typed_postable
  rw [hposts]
  have hform : ∀ key ∈ hiddenKeys, (Form.ofFields (page.fields values)).get? key =
      some (oauthParameter config queryParams key) := fun key hkey =>
    posted_hidden page hpage values hkey
  exact ⟨hform, fun rate call hcall => (call_of_posted hform hcall).2.2.2⟩

end Retrying

namespace Sample

/-- The first rule of the style sheet. -/
def pageStyles : String := "
      :root \x7b
        color-scheme: light;
        --rs-navy: #1e293b;
        --rs-deep-navy: #1f293f;
        --rs-midnight: #1a1e33;
        --rs-lime: #cef373;
        --rs-link: #0a91c9;
        --rs-text: #000000;
        --rs-muted: #51607a;
        --rs-border: #d7e0ec;
        --rs-soft-bg: #f5f7fb;
        --rs-error-bg: #fff0ed;
        --rs-error-text: #8b3216;
      \x7d
"

def pageScript : String := "
      (function () \x7b
        // Best-effort popup sizing: if this page is opened as a popup
        // (e.g. Canva's OAuth flow), resize the window to fit the form
        // so users don't have to scroll. Browsers only honour this on
        // windows opened via script — it's a no-op elsewhere.
        try \x7b
          var card = document.querySelector(\".card\");
          if (!card || !window.opener) return;
          var rect = card.getBoundingClientRect();
          var targetWidth = Math.min(540, Math.round(rect.width) + 80);
          var targetHeight = Math.min(820, Math.round(rect.height) + 80);
          window.resizeTo(targetWidth, targetHeight);
        \x7d catch (e) \x7b
          /* ignore */
        \x7d
        var urlField = document.getElementById(\"tenant_url\");
        var userField = document.getElementById(\"username\");
        var pwField = document.getElementById(\"password\");
        if (urlField && !urlField.value) urlField.focus();
        else if (userField && !userField.value) userField.focus();
        else if (pwField) pwField.focus();
        else if (urlField) urlField.focus();
      \x7d)();
    "

set_option maxRecDepth 10000 in
theorem pageFrame_isText : '<' ∉ pageStyles.toList ∧ '<' ∉ pageScript.toList :=
  ⟨notMem_toList rfl (by decide +kernel), notMem_toList rfl (by decide +kernel)⟩

def pageFrame : PageFrame where
  styles := pageStyles.toList
  script := pageScript.toList
  styles_isText := pageFrame_isText.1
  script_isText := pageFrame_isText.2

/-- An engine and a browser as they are documented. -/
def browser (frame : PageFrame) : Platform where
  escaping := escape htmlReplacements
  renders page := page.html (escape htmlReplacements) frame
  posts := posted

theorem browser_posts (frame : PageFrame) : (browser frame).posts = posted := rfl

theorem browser_renders (frame : PageFrame) (page : SignInPage) :
    (browser frame).renders page = page.html (escape htmlReplacements) frame := by
  simp only [browser]

theorem browser_documented (frame : PageFrame) : (browser frame).Documented frame where
  escapes _ := rfl
  renders page := browser_renders frame page
  posts _ _ typed typing := ⟨typed, typing, by rw [browser_posts]⟩

def pageConfig : RouteConfig where
  toAppConfig := { config with resourceSpace := { config.resourceSpace with ssoEnabled := false } }
  clientIpHeader := "x-real-ip"
  trustedProxyHosts := ["10.0.0.0/8"]
  clientId := "canva-client"
  ssoSystemKey := "canva"

/-- A request whose state ends the value that it is put into, and opens an input. -/
def injectingQuery : Form :=
  .ofFields [("response_type", "code"), ("client_id", "canva-client"),
    ("redirect_uri", "https://canva.example/return"),
    ("state", "\"/><input name=\"redirect_uri\" value=\"//evil"),
    ("code_challenge", "iMnq5o6zALKXGivsnlom_0F5_WYda32GHkxlV7mq7hQ")]

/-- A sign-in that fails with a message in markup. -/
def failedSignIn : FailedSignIn where
  rate := ⟨true, 0⟩
  typed _ := "ada"
  errorCode := "INVALID_CREDENTIALS"
  errorMessage := some "</p><input name=\"state\">"

theorem injectingQuery_postable :
    ∀ key ∈ hiddenKeys, IsPostable (oauthParameter pageConfig injectingQuery key) := by
  decide +kernel

end Sample

theorem parameters_survive_injection :
    ∃ doc, retried (Sample.browser Sample.pageFrame) .ascii Sample.pageConfig Sample.injectingQuery
        [Sample.failedSignIn] = some doc ∧
      ((Sample.browser Sample.pageFrame).posts doc fun _ => "bob").get? "state" =
        some "\"/><input name=\"redirect_uri\" value=\"//evil" := by
  have hposted := posted_html (oauthAuthoriseGet Sample.pageConfig Sample.injectingQuery)
    Sample.failedSignIn.typed Sample.pageFrame
  have hright : (oauthAuthorizePost Sample.pageConfig Sample.failedSignIn.rate (.ofFields
      ((oauthAuthoriseGet Sample.pageConfig Sample.injectingQuery).fields
        Sample.failedSignIn.typed))).isRight = true := by decide +kernel
  obtain ⟨call, hcall⟩ := Sum.isRight_iff.1 hright
  have hretried : ∃ doc, retried (Sample.browser Sample.pageFrame) .ascii Sample.pageConfig Sample.injectingQuery
      [Sample.failedSignIn] = some doc := by
    rw [retried, List.foldlM_cons, retry, Sample.browser_posts, Sample.browser_renders, hposted, hcall]
    exact ⟨_, rfl⟩
  obtain ⟨doc, hdoc⟩ := hretried
  refine ⟨doc, hdoc, ?_⟩
  have htyped : ∀ s : String, IsPostable "ada" ∧ IsPostable "bob" := fun _ => by decide +kernel
  have htyping : ∀ failed ∈ [Sample.failedSignIn], ∀ name, IsPostable (failed.typed name) :=
    List.forall_mem_singleton.2 fun name => (htyped name).1
  have hstate := (parameters_survive (Sample.browser_documented Sample.pageFrame)
    Sample.injectingQuery_postable htyping hdoc fun name => (htyped name).2).1 "state" (by simp [hiddenKeys])
  rw [hstate]
  decide +kernel

end Broker
