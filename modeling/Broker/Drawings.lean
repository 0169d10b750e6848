import Broker.AuthService
import Broker.Fixtures
import Broker.Lib.Markup

/-!
# Drawings of fixture assets

The SVG document that stands for the bytes of a fixture asset (`renderFixtureSvg`): a
template, in whose texts the asset's own are escaped (`escapeXml`). Whatever these are,
its elements and their attributes are those of the template, and its texts are read as
the title, the summary and the container path of the asset (`drawing_faithful`). This is
what an XML reader finds (`readTags`) if their characters are such that it passes them on
as they are.
-/

namespace Broker

open Py Escaping Markup

/-! ## Escaping -/

/-- The replacements of `_escape_xml`, in their order. -/
def xmlReplacements : List (Char × List Char) :=
  [('&', ['&', 'a', 'm', 'p', ';']), ('<', ['&', 'l', 't', ';']), ('>', ['&', 'g', 't', ';']),
    ('"', ['&', 'q', 'u', 'o', 't', ';']), ('\'', ['&', 'a', 'p', 'o', 's', ';'])]

/-- `_escape_xml`. -/
def escapeXml (value : List Char) : List Char := replaceAll xmlReplacements value

theorem guards_xml : Guards xmlReplacements := by decide

/-- The entities of `_escape_xml`. -/
def xmlEscapes : Escapes where
  mark := '&'
  table := xmlReplacements
  marked := by decide
  escaped := by decide
  prefixFree := by decide

/-- The ampersand comes first, so no replacement changes the text of another. -/
theorem escapeXml_eq (value : List Char) : escapeXml value = escape xmlReplacements value :=
  replaceAll_eq_escape (by decide) value

/-! ## Drawings -/

/-- What a drawing has in the places of its template. -/
inductive DrawingHole
  | width | height | accent | circleX | circleY | radius
  | titleY | titleSize | title | summaryY | subtitleSize | summary | pathY | path
  deriving DecidableEq

/-- The document that `render_fixture_svg` writes. -/
def drawingTemplate : List (Piece DrawingHole) :=
  [.literal "<?xml version=\"1.0\" encoding=\"UTF-8\"?>
<svg xmlns=\"http://www.w3.org/2000/svg\" width=\"", .hole .width, .literal "\" height=\"",
   .hole .height, .literal "\" viewBox=\"0 0 ", .hole .width, .literal " ", .hole .height,
   .literal "\">
  <defs>
    <linearGradient id=\"bg\" x1=\"0%\" y1=\"0%\" x2=\"100%\" y2=\"100%\">
      <stop offset=\"0%\" stop-color=\"", .hole .accent, .literal "\"/>
      <stop offset=\"100%\" stop-color=\"#0b1020\"/>
    </linearGradient>
  </defs>
  <rect width=\"", .hole .width, .literal "\" height=\"", .hole .height,
   .literal "\" rx=\"24\" fill=\"url(#bg)\"/>
  <circle cx=\"", .hole .circleX, .literal "\" cy=\"", .hole .circleY, .literal "\" r=\"",
   .hole .radius, .literal "\" fill=\"rgba(255,255,255,0.12)\"/>
  <text x=\"48\" y=\"", .hole .titleY,
   .literal "\" fill=\"#ffffff\" font-family=\"Helvetica, Arial, sans-serif\" font-size=\"",
   .hole .titleSize, .literal "\" font-weight=\"700\">
    ", .hole .title, .literal "
  </text>
  <text x=\"48\" y=\"", .hole .summaryY,
   .literal "\" fill=\"#edf2f4\" font-family=\"Helvetica, Arial, sans-serif\" font-size=\"",
   .hole .subtitleSize, .literal "\">
    ", .hole .summary, .literal "
  </text>
  <text x=\"48\" y=\"", .hole .pathY,
   .literal "\" fill=\"#edf2f4\" font-family=\"Helvetica, Arial, sans-serif\" font-size=\"",
   .hole .subtitleSize, .literal "\">
    ", .hole .path, .literal "
  </text>
</svg>"]

/-- `round(n * x)`, for a decimal `x` of the source. -/
def roundTimes (n : ℤ) (x : ℚ) : Except PyError ℤ := do
  let f ← float (Double.round n)
  let x ← float (Double.round x)
  let product ← float (Double.round (f * x))
  return Double.roundHalfEven product

/-- What a drawing shows, without escapes. -/
def drawingTexts (asset : FixtureAsset) (accent variant : String) :
    Except PyError (DrawingHole → List Char) := do
  let thumbnail := variant = "thumbnail"
  let width : ℤ := if thumbnail then 480 else asset.width
  let height : ℤ := if thumbnail then 320 else asset.height
  let titleSize : ℤ := if thumbnail then 28 else 46
  let subtitleSize : ℤ := if thumbnail then 14 else 24
  let circleX ← roundTimes width (82 / 100)
  let circleY ← roundTimes height (18 / 100)
  let radius ← roundTimes width (12 / 100)
  let titleY ← roundTimes height (42 / 100)
  let summaryY ← roundTimes height (54 / 100)
  return fun
    | .width => (toString width).toList
    | .height => (toString height).toList
    | .accent => accent.toList
    | .circleX => (toString circleX).toList
    | .circleY => (toString circleY).toList
    | .radius => (toString radius).toList
    | .titleY => (toString titleY).toList
    | .titleSize => (toString titleSize).toList
    | .title => asset.title.toList
    | .summaryY => (toString summaryY).toList
    | .subtitleSize => (toString subtitleSize).toList
    | .summary => asset.summary.toList
    | .pathY => (toString (height - 32)).toList
    | .path => (Fixture.getContainerPath (some asset.containerId)).toList

/-- Whether `render_fixture_svg` escapes what it puts into a place. -/
def DrawingHole.isEscaped : DrawingHole → Bool
  | .title | .summary | .path => true
  | _ => false

/-- A piece of the document. -/
def drawPiece (texts : DrawingHole → List Char) : Piece DrawingHole → List Char
  | .literal s => s.toList
  | .hole h => if h.isEscaped then escapeXml (texts h) else texts h

/-- `render_fixture_svg`. -/
def renderFixtureSvg (asset : FixtureAsset) (accent variant : String) : Except PyError (List Char) :=
  (drawingTexts asset accent variant).map fun texts => drawingTemplate.flatMap (drawPiece texts)

/-! ## Reading drawings -/

/-- The elements of a drawing, with their attributes. -/
def drawingMarkup : List (String × List String) :=
  [("?xml", ["version", "encoding"]), ("svg", ["xmlns", "width", "height", "viewBox"]),
   ("defs", []), ("linearGradient", ["id", "x1", "y1", "x2", "y2"]),
   ("stop", ["offset", "stop-color"]), ("stop", ["offset", "stop-color"]),
   ("/linearGradient", []), ("/defs", []), ("rect", ["width", "height", "rx", "fill"]),
   ("circle", ["cx", "cy", "r", "fill"]),
   ("text", ["x", "y", "fill", "font-family", "font-size", "font-weight"]), ("/text", []),
   ("text", ["x", "y", "fill", "font-family", "font-size"]), ("/text", []),
   ("text", ["x", "y", "fill", "font-family", "font-size"]), ("/text", []), ("/svg", [])]

/-- The symbols of the template around a text. -/
def shownSymbols (h : DrawingHole) : List (Symbol DrawingHole) :=
  [.char '\n', .char ' ', .char ' ', .char ' ', .char ' ', .hole h, .char '\n', .char ' ', .char ' ']

/-- The text in an element of a drawing. -/
def shownText (s : String) : List Char :=
  ['\n', ' ', ' ', ' ', ' '] ++ s.toList ++ ['\n', ' ', ' ']

/-- The tags of the template. -/
def templateTags : List (Tag (Symbol DrawingHole)) :=
  (run Symbol.view (.within []) (symbols drawingTemplate)).2

/-- What a reader takes for the texts of a drawing, by its tags. -/
def drawnTexts (ts : List (Tag Char)) : List (List Char) :=
  (ts.filter fun t => t.name some = ['/', 't', 'e', 'x', 't']).map fun t =>
    xmlEscapes.unescape t.text

set_option maxRecDepth 10000 in
/-- What the lexer makes of the template: its elements, and the texts before their ends. All its
    characters are readable. -/
theorem template_tags :
    (templateTags.map (Tag.skeleton Symbol.view) = drawingMarkup ∧ ∀ t ∈ templateTags, t.Plain) ∧
      (templateTags.filter fun t => t.name Symbol.view = ['/', 't', 'e', 'x', 't']).map Tag.text =
        [.title, .summary, .path].map shownSymbols ∧
      ∀ a ∈ symbols drawingTemplate, AllReadable a.view.toList := by
  rw [templateTags]
  rw [drawingTemplate, Spells.symbols_eq (.literal rfl <| .hole _ <| .literal rfl <| .hole _ <|
    .literal rfl <| .hole _ <| .literal rfl <| .hole _ <| .literal rfl <| .hole _ <|
    .literal rfl <| .hole _ <| .literal rfl <| .hole _ <| .literal rfl <| .hole _ <|
    .literal rfl <| .hole _ <| .literal rfl <| .hole _ <| .literal rfl <| .hole _ <|
    .literal rfl <| .hole _ <| .literal rfl <| .hole _ <| .literal rfl <| .hole _ <|
    .literal rfl <| .hole _ <| .literal rfl <| .hole _ <| .literal rfl <| .hole _ <|
    .literal rfl <| .hole _ <| .literal rfl <| .hole _ <| .literal rfl .nil)]
  decide +kernel

/-- A text of an attribute that has no characters to escape. -/
def IsPlain (s : String) : Prop := ∀ c ∈ s.toList, c ∉ xmlReplacements.map Prod.fst

instance (s : String) : Decidable (IsPlain s) := List.decidableBAll _ _

theorem isPlain_toString (n : ℤ) : IsPlain (toString n) := by
  have hdigits : ∀ d ∈ xmlReplacements.map Prod.fst, isDigit d = false ∧ d ≠ '-' := by
    simp only [xmlReplacements, List.map_cons, List.map_nil, List.forall_mem_cons, List.not_mem_nil,
      false_implies, implies_true, and_true]
    decide
  intro c hc hkey
  obtain ⟨hdigit, hminus⟩ := hdigits c hkey
  rw [toList_toString] at hc
  split_ifs at hc
  · rw [isDigit_of_mem_toDigits hc] at hdigit
    cases hdigit
  · rcases List.mem_cons.1 hc with hc | hc
    · exact hminus hc
    · rw [isDigit_of_mem_toDigits hc] at hdigit
      cases hdigit

/-- What is not escaped has nothing to escape. -/
theorem plain_of_not_isEscaped {asset : FixtureAsset} {accent variant : String}
    (plain : IsPlain accent) {texts : DrawingHole → List Char}
    (h : drawingTexts asset accent variant = .ok texts) {hole : DrawingHole}
    (raw : hole.isEscaped = false) : escape xmlReplacements (texts hole) = texts hole := by
  rw [drawingTexts] at h
  obtain ⟨circleX, -, h⟩ := exists_ok_of_bind h
  obtain ⟨circleY, -, h⟩ := exists_ok_of_bind h
  obtain ⟨radius, -, h⟩ := exists_ok_of_bind h
  obtain ⟨titleY, -, h⟩ := exists_ok_of_bind h
  obtain ⟨summaryY, -, h⟩ := exists_ok_of_bind h
  obtain rfl := Except.ok.inj h
  refine escape_of_notMem ?_
  cases hole with
  | accent => exact plain
  | title | summary | path => cases raw
  | _ => exact isPlain_toString _

/-- A drawing is the template, filled with escaped texts. -/
theorem renderFixtureSvg_eq {asset : FixtureAsset} {accent variant : String} (plain : IsPlain accent)
    {doc : List Char} (h : renderFixtureSvg asset accent variant = .ok doc) :
    ∃ texts, drawingTexts asset accent variant = .ok texts ∧
      doc = render xmlReplacements texts drawingTemplate := by
  rw [renderFixtureSvg] at h
  cases htexts : drawingTexts asset accent variant with
  | error e =>
    rw [htexts] at h
    cases h
  | ok texts =>
    rw [htexts] at h
    obtain rfl := Except.ok.inj h
    refine ⟨texts, rfl, List.flatMap_congr fun piece _ => ?_⟩
    cases piece with
    | literal s => rfl
    | hole hole =>
      rw [drawPiece, Piece.render]
      split_ifs with hescaped
      · exact escapeXml_eq _
      · exact (plain_of_not_isEscaped plain htexts (Bool.not_eq_true _ ▸ hescaped)).symm

theorem drawingTexts_shown {asset : FixtureAsset} {accent variant : String}
    {texts : DrawingHole → List Char} (h : drawingTexts asset accent variant = .ok texts) :
    texts .title = asset.title.toList ∧ texts .summary = asset.summary.toList ∧
      texts .path = (Fixture.getContainerPath (some asset.containerId)).toList := by
  rw [drawingTexts] at h
  obtain ⟨circleX, -, h⟩ := exists_ok_of_bind h
  obtain ⟨circleY, -, h⟩ := exists_ok_of_bind h
  obtain ⟨radius, -, h⟩ := exists_ok_of_bind h
  obtain ⟨titleY, -, h⟩ := exists_ok_of_bind h
  obtain ⟨summaryY, -, h⟩ := exists_ok_of_bind h
  obtain rfl := Except.ok.inj h
  exact ⟨rfl, rfl, rfl⟩

/-- A text of the template is read as what fills its hole. -/
theorem unescape_shownSymbols (texts : DrawingHole → List Char) (hole : DrawingHole) {s : String}
    (h : texts hole = s.toList) :
    xmlEscapes.unescape (fill xmlReplacements texts (shownSymbols hole)) = shownText s := by
  have hblank : ∀ c ∈ ['\n', ' '], c ∉ xmlReplacements.map Prod.fst := by
    simp only [List.forall_mem_cons, List.not_mem_nil, false_implies, implies_true, and_true]
    decide
  have hchars : ∀ a ∈ shownSymbols hole, ∀ c ∈ a.view, c ∉ xmlReplacements.map Prod.fst := by
    intro a ha c hc
    refine hblank c ?_
    simp only [shownSymbols, List.mem_cons, List.not_mem_nil, or_false] at ha
    rcases ha with rfl | rfl | rfl | rfl | rfl | rfl | rfl | rfl | rfl <;> cases hc <;> decide
  have hraw : fill [] texts (shownSymbols hole) = shownText s := by
    have hhole : escape [] (texts hole) = s.toList :=
      (escape_of_notMem fun c _ => List.not_mem_nil).trans h
    simp only [shownSymbols, fill, List.flatMap_cons, List.flatMap_nil, Symbol.fill, hhole]
    rfl
  rw [fill_eq_escape hchars, hraw]
  exact Escapes.unescape_escape (shownText s)

/-! ## Readable characters -/

theorem isReadable_of_toString (n : ℤ) : AllReadable (toString n).toList := by
  have hdigit : ∀ c, isDigit c = true → IsReadable c := by
    intro c hc
    rw [isDigit, Bool.and_eq_true, decide_eq_true_eq, decide_eq_true_eq] at hc
    have hlow : '0'.toNat ≤ c.toNat := hc.1
    have hhigh : c.toNat ≤ '9'.toNat := hc.2
    refine ⟨.inr (.inr (.inr (.inl ⟨le_trans (by decide) hlow, le_trans hhigh (by decide)⟩))), ?_⟩
    rintro rfl
    exact absurd hlow (by decide)
  intro c hc
  rw [toList_toString] at hc
  split_ifs at hc
  · exact hdigit c (isDigit_of_mem_toDigits hc)
  · rcases List.mem_cons.1 hc with rfl | hc
    · decide
    · exact hdigit c (isDigit_of_mem_toDigits hc)

theorem isReadable_of_containers :
    ∀ container ∈ Fixture.containers, AllReadable container.name.toList := by
  decide +kernel

theorem mem_containers_of_mem_ancestors {fuel : ℕ} {containerId : Option String}
    {container : FixtureContainer} (h : container ∈ Fixture.ancestors fuel containerId) :
    container ∈ Fixture.containers := by
  induction fuel generalizing containerId with
  | zero => cases h
  | succ fuel ih =>
    rw [Fixture.ancestors] at h
    cases hfound : Fixture.getContainerById containerId with
    | none =>
      rw [hfound] at h
      cases h
    | some found =>
      rw [hfound] at h
      rcases List.mem_cons.1 h with rfl | h
      · obtain ⟨id, -, hid⟩ := Option.bind_eq_some_iff.1 hfound
        exact List.mem_of_find?_eq_some hid
      · exact ih h

/-- A container path is made of the names of the data. -/
theorem isReadable_of_getContainerPath (containerId : Option String) :
    AllReadable (Fixture.getContainerPath containerId).toList := by
  intro c hc
  rw [Fixture.getContainerPath, String.toList_intercalate] at hc
  rcases mem_or_mem_of_mem_intercalate hc with hsep | ⟨text, htext, hc⟩
  · have hblanks : AllReadable " / ".toList := by decide +kernel
    exact hblanks c hsep
  · obtain ⟨name, hname, rfl⟩ := List.mem_map.1 htext
    obtain ⟨container, hcontainer, rfl⟩ := List.mem_map.1 hname
    have hmem := mem_containers_of_mem_ancestors (List.mem_reverse.1 hcontainer)
    exact isReadable_of_containers container hmem c hc

/-- The texts of a drawing are readable if those of the asset are. -/
theorem isReadable_of_drawingTexts {asset : FixtureAsset} {accent variant : String}
    {texts : DrawingHole → List Char} (h : drawingTexts asset accent variant = .ok texts)
    (readable : ∀ s ∈ [accent, asset.title, asset.summary], AllReadable s.toList)
    (hole : DrawingHole) : AllReadable (texts hole) := by
  rw [drawingTexts] at h
  obtain ⟨circleX, -, h⟩ := exists_ok_of_bind h
  obtain ⟨circleY, -, h⟩ := exists_ok_of_bind h
  obtain ⟨radius, -, h⟩ := exists_ok_of_bind h
  obtain ⟨titleY, -, h⟩ := exists_ok_of_bind h
  obtain ⟨summaryY, -, h⟩ := exists_ok_of_bind h
  obtain rfl := Except.ok.inj h
  cases hole with
  | accent => exact readable accent (by simp)
  | title => exact readable asset.title (by simp)
  | summary => exact readable asset.summary (by simp)
  | path => exact isReadable_of_getContainerPath _
  | _ => exact isReadable_of_toString _

theorem isReadable_of_xmlReplacements : ∀ e ∈ xmlReplacements, AllReadable e.2 := by decide

/-- In a drawing an XML reader finds the elements of the template, with their attributes, and the
    texts of the asset, whatever characters these have that it passes on as they are. -/
theorem drawing_faithful {asset : FixtureAsset} {accent variant : String} (plain : IsPlain accent)
    (readable : ∀ s ∈ [accent, asset.title, asset.summary], AllReadable s.toList)
    {doc : List Char} (h : renderFixtureSvg asset accent variant = .ok doc) :
    ∃ ts, readTags doc = some ts ∧ ts.map (Tag.skeleton some) = drawingMarkup ∧
      drawnTexts ts = [asset.title, asset.summary,
        Fixture.getContainerPath (some asset.containerId)].map shownText := by
  obtain ⟨texts, htexts, rfl⟩ := renderFixtureSvg_eq plain h
  obtain ⟨⟨hmarkup, hplain⟩, hshown, hreadable⟩ := template_tags
  have hliterals : ∀ a ∈ symbols drawingTemplate, ∀ c ∈ a.view, IsReadable c := fun a ha c hc =>
    hreadable a ha c (Option.mem_toList.2 hc)
  have hread := readTags_of_readable (forall_mem_render isReadable_of_xmlReplacements hliterals
    (isReadable_of_drawingTexts htexts readable))
  have htags : tags (render xmlReplacements texts drawingTemplate) =
      templateTags.map (Tag.map (fill xmlReplacements texts)) := tags_render guards_xml drawingTemplate
  refine ⟨_, hread, ?_⟩
  rw [drawnTexts, htags]
  constructor
  · rw [List.map_map, ← hmarkup]
    exact List.map_congr_left fun t ht => Tag.skeleton_fill (hplain t ht)
  · have hnames : (templateTags.map (Tag.map (fill xmlReplacements texts))).filter
          (fun t => t.name some = ['/', 't', 'e', 'x', 't']) =
        (templateTags.filter fun t => t.name Symbol.view = ['/', 't', 'e', 'x', 't']).map
          (Tag.map (fill xmlReplacements texts)) := by
      rw [List.filter_map]
      refine congrArg _ (List.filter_congr fun t ht => ?_)
      rw [Function.comp_apply, Tag.name_fill (hplain t ht)]
    have htext : (fun t : Tag Char => xmlEscapes.unescape t.text) ∘ Tag.map (fill xmlReplacements texts) =
        (fun s => xmlEscapes.unescape (fill xmlReplacements texts s)) ∘ Tag.text := rfl
    obtain ⟨htitle, hsummary, hpath⟩ := drawingTexts_shown htexts
    rw [hnames, List.map_map, htext, ← List.map_map, hshown, List.map_map]
    simp only [List.map_cons, List.map_nil, Function.comp_apply]
    rw [unescape_shownSymbols texts _ htitle, unescape_shownSymbols texts _ hsummary,
      unescape_shownSymbols texts _ hpath]

/-! ## The drawings of the fixture data -/

/-- The numbers of a drawing of this size can be computed. -/
def IsDrawable (width height : ℤ) : Prop :=
  ∀ e ∈ [(width, 82), (height, 18), (width, 12), (height, 42), (height, 54)],
    (roundTimes e.1 (e.2 / 100)).toOption.isSome = true

instance (width height : ℤ) : Decidable (IsDrawable width height) :=
  inferInstanceAs (Decidable (∀ e ∈ _, _))

theorem drawable_assets :
    IsDrawable 480 320 ∧ ∀ asset ∈ Fixture.assets, IsDrawable asset.width asset.height := by
  decide +kernel

theorem exists_roundTimes {n : ℤ} {x : ℚ} (h : (roundTimes n x).toOption.isSome = true) :
    ∃ m, roundTimes n x = .ok m := by
  cases hround : roundTimes n x with
  | error e =>
    rw [hround] at h
    cases h
  | ok m => exact ⟨m, rfl⟩

/-- A drawing whose size is drawable is drawn. -/
theorem exists_drawing {asset : FixtureAsset} {variant : String}
    (h : variant ≠ "thumbnail" → IsDrawable asset.width asset.height) (accent : String) :
    ∃ doc, renderFixtureSvg asset accent variant = .ok doc := by
  have hsize : IsDrawable (if variant = "thumbnail" then 480 else asset.width)
      (if variant = "thumbnail" then 320 else asset.height) := by
    split_ifs with hvariant
    · exact drawable_assets.1
    · exact h hvariant
  generalize hwidth : (if variant = "thumbnail" then (480 : ℤ) else asset.width) = width at hsize
  generalize hheight : (if variant = "thumbnail" then (320 : ℤ) else asset.height) = height at hsize
  simp only [IsDrawable, List.forall_mem_cons, List.not_mem_nil, false_implies, implies_true,
    and_true] at hsize
  obtain ⟨hcx, hcy, hradius, htitle, hsummary⟩ := hsize
  obtain ⟨circleX, hcx⟩ := exists_roundTimes hcx
  obtain ⟨circleY, hcy⟩ := exists_roundTimes hcy
  obtain ⟨radius, hradius⟩ := exists_roundTimes hradius
  obtain ⟨titleY, htitle⟩ := exists_roundTimes htitle
  obtain ⟨summaryY, hsummary⟩ := exists_roundTimes hsummary
  rw [renderFixtureSvg, drawingTexts]
  simp only [hwidth, hheight]
  rw [hcx, hcy, hradius, htitle, hsummary]
  exact ⟨_, rfl⟩

namespace Sample

/-- An asset whose title ends the element that it is in, and opens another. -/
def scriptAsset : FixtureAsset where
  id := "asset_script"
  tenantId := "tenant_acme"
  containerId := "container_acme_root"
  title := "</text><script src=\"//evil\"/>"
  summary := "Tom & Jerry's"
  mimeType := "image/svg+xml"
  filename := "script.svg"
  width := 1400
  height := 900
  restrictedTo := []
  createdAt := "2026-03-28T10:00:00.000Z"
  updatedAt := "2026-04-04T10:00:00.000Z"

end Sample

theorem drawing_faithful_script :
    ∃ doc, renderFixtureSvg Sample.scriptAsset "#8338ec" "thumbnail" = .ok doc ∧
      ∃ ts, readTags doc = some ts ∧ ts.map (Tag.skeleton some) = drawingMarkup ∧
        drawnTexts ts = [Sample.scriptAsset.title, Sample.scriptAsset.summary,
          Fixture.getContainerPath (some Sample.scriptAsset.containerId)].map shownText := by
  obtain ⟨doc, hdoc⟩ := @exists_drawing Sample.scriptAsset "thumbnail" (fun h => absurd rfl h) "#8338ec"
  have hplain : IsPlain "#8338ec" := by decide +kernel
  have hreadable : ∀ s ∈ ["#8338ec", Sample.scriptAsset.title, Sample.scriptAsset.summary],
      AllReadable s.toList := by decide +kernel
  exact ⟨doc, hdoc, drawing_faithful hplain hreadable hdoc⟩

end Broker
