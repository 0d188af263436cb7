import MarkupCompletion.Schema.Definition
import MarkupCompletion.Markup.Doctype

/-
  The vocabularies of HTML.

  One table of elements serves HTML 4.01, XHTML 1.0 and HTML5. A flavor takes
  from it the elements and attributes that it has; a content model names only
  elements of the flavor. The tables hold what people type, not everything.
-/

namespace MarkupCompletion

namespace Html

/-- The vocabulary of a kind of HTML. -/
inductive Flavor where
  | html5
  | strict
  /-- with presentational markup -/
  | transitional
  deriving DecidableEq, Repr

/-- What may stand inside an element. -/
inductive ContentModel where
  /-- blocks and phrases -/
  | flow
  | phrasing
  | only (names : List Text)
  /-- no element -/
  | none

/-- An element of the table. -/
structure Row where
  name : Text
  description : Text
  content : ContentModel
  /-- the flavors that have the element; none named means all -/
  flavors : List Flavor
  attributes : List AttributeDefinition

def phrasingNames : List Text :=
  ["a", "abbr", "b", "br", "button", "code", "em", "font", "i", "img", "input", "label", "s",
   "select", "small", "span", "strike", "strong", "sub", "sup", "textarea", "u"]

def blockNames : List Text :=
  ["address", "article", "aside", "blockquote", "canvas", "center", "div", "dl", "fieldset",
   "figure", "footer", "form", "h1", "h2", "h3", "h4", "h5", "h6", "header", "hr", "main", "nav",
   "ol", "p", "pre", "section", "table", "ul", "audio", "video"]

def alignValues : List Text := ["left", "center", "right", "justify"]

def targetValues : List Text := ["_blank", "_self", "_parent", "_top"]

def inputTypes : List Text :=
  ["text", "password", "checkbox", "radio", "submit", "reset", "button", "hidden", "file", "image"]

def html5InputTypes : List Text :=
  ["email", "number", "date", "range", "search", "url", "color", "tel"]

/-- The elements, in the order in which they are proposed. -/
def rows : List Row :=
  [⟨"html", "Document root", .only ["head", "body"], [],
     [⟨"xmlns", "XML namespace", ["http://www.w3.org/1999/xhtml"]⟩,
      ⟨"manifest", "Application cache manifest", []⟩]⟩,
   ⟨"head", "Document metadata", .only ["title", "meta", "link", "style", "script", "base"], [],
     [⟨"profile", "Metadata profiles", []⟩]⟩,
   ⟨"title", "Document title", .none, [], []⟩,
   ⟨"base", "Base URL", .none, [],
     [⟨"href", "Base URL", []⟩,
      ⟨"target", "Default target", targetValues⟩]⟩,
   ⟨"meta", "Metadata", .none, [],
     [⟨"name", "Metadata name", ["author", "description", "keywords", "generator", "viewport"]⟩,
      ⟨"content", "Metadata value", []⟩,
      ⟨"http-equiv", "HTTP header", ["content-type", "refresh", "default-style"]⟩,
      ⟨"charset", "Character encoding", ["utf-8"]⟩]⟩,
   ⟨"link", "Linked resource", .none, [],
     [⟨"rel", "Relationship", ["stylesheet", "icon", "alternate", "author", "help", "next",
        "prev"]⟩,
      ⟨"href", "Resource URL", []⟩,
      ⟨"type", "MIME type", ["text/css"]⟩,
      ⟨"media", "Target media", ["all", "screen", "print"]⟩]⟩,
   ⟨"style", "Embedded style sheet", .none, [],
     [⟨"type", "Style language", ["text/css"]⟩,
      ⟨"media", "Target media", ["all", "screen", "print"]⟩]⟩,
   ⟨"script", "Script", .none, [],
     [⟨"src", "Script URL", []⟩,
      ⟨"type", "Script language", ["text/javascript", "module"]⟩,
      ⟨"defer", "Defer execution", ["defer"]⟩,
      ⟨"async", "Execute asynchronously", ["async"]⟩]⟩,
   ⟨"body", "Document body", .flow, [],
     [⟨"onload", "Load handler", []⟩,
      ⟨"bgcolor", "Background color", []⟩]⟩,
   ⟨"div", "Generic block container", .flow, [],
     [⟨"align", "Horizontal alignment", alignValues⟩]⟩,
   ⟨"p", "Paragraph", .phrasing, [], [⟨"align", "Horizontal alignment", alignValues⟩]⟩,
   ⟨"span", "Generic inline container", .phrasing, [], []⟩,
   ⟨"h1", "Heading level 1", .phrasing, [], [⟨"align", "Horizontal alignment", alignValues⟩]⟩,
   ⟨"h2", "Heading level 2", .phrasing, [], [⟨"align", "Horizontal alignment", alignValues⟩]⟩,
   ⟨"h3", "Heading level 3", .phrasing, [], [⟨"align", "Horizontal alignment", alignValues⟩]⟩,
   ⟨"h4", "Heading level 4", .phrasing, [], [⟨"align", "Horizontal alignment", alignValues⟩]⟩,
   ⟨"h5", "Heading level 5", .phrasing, [], [⟨"align", "Horizontal alignment", alignValues⟩]⟩,
   ⟨"h6", "Heading level 6", .phrasing, [], [⟨"align", "Horizontal alignment", alignValues⟩]⟩,
   ⟨"a", "Hyperlink", .phrasing, [],
     [⟨"href", "Link target", []⟩,
      ⟨"target", "Browsing context", targetValues⟩,
      ⟨"rel", "Relationship", ["nofollow", "noopener", "noreferrer", "external"]⟩,
      ⟨"name", "Anchor name", []⟩]⟩,
   ⟨"img", "Image", .none, [],
     [⟨"src", "Image URL", []⟩,
      ⟨"alt", "Alternative text", []⟩,
      ⟨"width", "Width", []⟩,
      ⟨"height", "Height", []⟩]⟩,
   ⟨"br", "Line break", .none, [], []⟩,
   ⟨"hr", "Thematic break", .none, [], []⟩,
   ⟨"ul", "Unordered list", .only ["li"], [], []⟩,
   ⟨"ol", "Ordered list", .only ["li"], [],
     [⟨"start", "First number", []⟩,
      ⟨"type", "Numbering style", ["1", "a", "A", "i", "I"]⟩]⟩,
   ⟨"li", "List item", .flow, [], []⟩,
   ⟨"dl", "Description list", .only ["dt", "dd"], [], []⟩,
   ⟨"dt", "Description term", .phrasing, [], []⟩,
   ⟨"dd", "Description details", .flow, [], []⟩,
   ⟨"table", "Table", .only ["caption", "thead", "tbody", "tfoot", "tr"], [],
     [⟨"border", "Border width", []⟩,
      ⟨"summary", "Table summary", []⟩]⟩,
   ⟨"caption", "Table caption", .phrasing, [], []⟩,
   ⟨"thead", "Table header rows", .only ["tr"], [], []⟩,
   ⟨"tbody", "Table body rows", .only ["tr"], [], []⟩,
   ⟨"tfoot", "Table footer rows", .only ["tr"], [], []⟩,
   ⟨"tr", "Table row", .only ["th", "td"], [], []⟩,
   ⟨"th", "Header cell", .flow, [],
     [⟨"colspan", "Columns spanned", []⟩,
      ⟨"rowspan", "Rows spanned", []⟩,
      ⟨"scope", "Cells described", ["row", "col", "rowgroup", "colgroup"]⟩]⟩,
   ⟨"td", "Data cell", .flow, [],
     [⟨"colspan", "Columns spanned", []⟩,
      ⟨"rowspan", "Rows spanned", []⟩]⟩,
   ⟨"form", "Form", .flow, [],
     [⟨"action", "Submission URL", []⟩,
      ⟨"method", "Submission method", ["get", "post"]⟩,
      ⟨"enctype", "Encoding", ["application/x-www-form-urlencoded", "multipart/form-data",
        "text/plain"]⟩]⟩,
   ⟨"input", "Form control", .none, [],
     [⟨"type", "Control type", inputTypes⟩,
      ⟨"name", "Control name", []⟩,
      ⟨"value", "Control value", []⟩,
      ⟨"checked", "Initially checked", ["checked"]⟩,
      ⟨"disabled", "Disabled", ["disabled"]⟩,
      ⟨"readonly", "Read only", ["readonly"]⟩,
      ⟨"maxlength", "Maximum length", []⟩,
      ⟨"size", "Visible width", []⟩]⟩,
   ⟨"label", "Control caption", .phrasing, [], [⟨"for", "Labelled control", []⟩]⟩,
   ⟨"select", "Option list", .only ["option", "optgroup"], [],
     [⟨"name", "Control name", []⟩,
      ⟨"multiple", "Allow multiple", ["multiple"]⟩,
      ⟨"size", "Visible rows", []⟩,
      ⟨"disabled", "Disabled", ["disabled"]⟩]⟩,
   ⟨"optgroup", "Option group", .only ["option"], [], [⟨"label", "Group label", []⟩]⟩,
   ⟨"option", "Option", .none, [],
     [⟨"value", "Option value", []⟩,
      ⟨"selected", "Initially selected", ["selected"]⟩,
      ⟨"disabled", "Disabled", ["disabled"]⟩]⟩,
   ⟨"textarea", "Multi-line text control", .none, [],
     [⟨"name", "Control name", []⟩,
      ⟨"rows", "Visible rows", []⟩,
      ⟨"cols", "Visible columns", []⟩]⟩,
   ⟨"button", "Button", .phrasing, [],
     [⟨"type", "Button behavior", ["submit", "reset", "button"]⟩,
      ⟨"name", "Control name", []⟩]⟩,
   ⟨"fieldset", "Control group", .flow, [], []⟩,
   ⟨"pre", "Preformatted text", .phrasing, [], []⟩,
   ⟨"blockquote", "Block quotation", .flow, [], [⟨"cite", "Source URL", []⟩]⟩,
   ⟨"address", "Contact information", .flow, [], []⟩,
   ⟨"strong", "Strong importance", .phrasing, [], []⟩,
   ⟨"em", "Emphasis", .phrasing, [], []⟩,
   ⟨"b", "Bold text", .phrasing, [], []⟩,
   ⟨"i", "Italic text", .phrasing, [], []⟩,
   ⟨"code", "Code fragment", .phrasing, [], []⟩,
   ⟨"small", "Small print", .phrasing, [], []⟩,
   ⟨"sub", "Subscript", .phrasing, [], []⟩,
   ⟨"sup", "Superscript", .phrasing, [], []⟩,
   ⟨"abbr", "Abbreviation", .phrasing, [], []⟩,
   ⟨"section", "Generic section", .flow, [.html5], []⟩,
   ⟨"article", "Self-contained composition", .flow, [.html5], []⟩,
   ⟨"nav", "Navigation links", .flow, [.html5], []⟩,
   ⟨"header", "Introductory content", .flow, [.html5], []⟩,
   ⟨"footer", "Footer content", .flow, [.html5], []⟩,
   ⟨"main", "Main content", .flow, [.html5], []⟩,
   ⟨"aside", "Tangential content", .flow, [.html5], []⟩,
   ⟨"figure", "Self-contained figure", .flow, [.html5], []⟩,
   ⟨"figcaption", "Figure caption", .flow, [.html5], []⟩,
   ⟨"video", "Video player", .only ["source", "track"], [.html5],
     [⟨"src", "Video URL", []⟩,
      ⟨"controls", "Show controls", ["controls"]⟩,
      ⟨"preload", "Preload hint", ["none", "metadata", "auto"]⟩]⟩,
   ⟨"audio", "Audio player", .only ["source", "track"], [.html5],
     [⟨"src", "Audio URL", []⟩,
      ⟨"controls", "Show controls", ["controls"]⟩,
      ⟨"preload", "Preload hint", ["none", "metadata", "auto"]⟩]⟩,
   ⟨"source", "Media source", .none, [.html5],
     [⟨"src", "Media URL", []⟩,
      ⟨"type", "MIME type", []⟩]⟩,
   ⟨"track", "Timed text track", .none, [.html5],
     [⟨"kind", "Track kind", ["subtitles", "captions", "descriptions", "chapters", "metadata"]⟩]⟩,
   ⟨"canvas", "Scriptable bitmap", .flow, [.html5],
     [⟨"width", "Width", []⟩,
      ⟨"height", "Height", []⟩]⟩,
   ⟨"center", "Centered block", .flow, [.transitional], []⟩,
   ⟨"font", "Font change", .phrasing, [.transitional],
     [⟨"size", "Font size", ["1", "2", "3", "4", "5", "6", "7"]⟩,
      ⟨"color", "Text color", []⟩,
      ⟨"face", "Font face", []⟩]⟩,
   ⟨"u", "Underlined text", .phrasing, [.transitional], []⟩,
   ⟨"s", "Strike-through text", .phrasing, [.transitional], []⟩,
   ⟨"strike", "Strike-through text", .phrasing, [.transitional], []⟩]

/-- The attributes that only transitional documents have. -/
def presentationalAttributes : List Text := ["align", "bgcolor", "border"]

/-- The attributes that only HTML5 documents have. -/
def html5Attributes : List Text := ["async", "charset", "manifest"]

def globalAttributes (flavor : Flavor) : List AttributeDefinition :=
  [⟨"id", "Unique identifier", []⟩, ⟨"class", "Style classes", []⟩, ⟨"style", "Inline style", []⟩,
   ⟨"title", "Advisory title", []⟩, ⟨"lang", "Language", []⟩,
   ⟨"dir", "Text direction", ["ltr", "rtl"]⟩] ++
  if flavor = .html5 then
    [⟨"hidden", "Not rendered", ["hidden"]⟩, ⟨"tabindex", "Tab order", []⟩,
     ⟨"contenteditable", "Editable content", ["true", "false"]⟩]
  else []

def Row.isIn (flavor : Flavor) (row : Row) : Bool :=
  row.flavors.isEmpty || row.flavors.contains flavor

def hasAttribute (flavor : Flavor) (name : Text) : Bool :=
  if presentationalAttributes.contains name then flavor == .transitional
  else if html5Attributes.contains name then flavor == .html5
  else true

def rowsOf (flavor : Flavor) : List Row := rows.filter (Row.isIn flavor)

/-- Those of the names that name elements of a flavor. -/
def present (flavor : Flavor) (names : List Text) : List Text :=
  names.filter ((rowsOf flavor).map (·.name)).contains

/-- The children that a content model permits in a flavor. -/
def ContentModel.children (flavor : Flavor) : ContentModel → List Text
  | .flow => present flavor blockNames ++ present flavor phrasingNames
  | .phrasing => present flavor phrasingNames
  | .only names => present flavor names
  | .none => []

/-- The attributes of an input control in HTML5, which knows more types. -/
def html5Input (attributes : List AttributeDefinition) : List AttributeDefinition :=
  (attributes.map fun (a : AttributeDefinition) =>
    if a.name = "type" then { a with values := a.values ++ html5InputTypes } else a) ++
  [⟨"placeholder", "Hint text", []⟩, ⟨"required", "Required", ["required"]⟩]

/-- The element of a row, as a flavor defines it. -/
def Row.element (flavor : Flavor) (row : Row) : ElementDefinition :=
  let kept := row.attributes.filter fun a => hasAttribute flavor a.name
  { name := row.name
    description := row.description
    children := some (row.content.children flavor)
    attributes := if row.name = "input" ∧ flavor = .html5 then html5Input kept else kept }

/-- The definition of a flavor of HTML under a name and a doctype. -/
def definition (name : Text) (fpi : Option Text) (doctype : Text) (flavor : Flavor) : Definition :=
  { name, fpi
    doctype := some doctype
    topLevel := ["html"]
    globalAttributes := globalAttributes flavor
    elements := (rowsOf flavor).map (Row.element flavor) }

/-- The schema used where a document names none that is known. -/
def defaultName : Text := "html5"

/-- The definition of a flavor of HTML that a doctype selects. -/
def ofDoctype (name : Text) (doctype : Doctype) (flavor : Flavor) : Definition :=
  definition name doctype.fpi doctype.written flavor

def definitions : List Definition :=
  [ofDoctype "html5" ⟨"html", none, none⟩ .html5,
   ofDoctype "xhtml1-strict"
     ⟨"html", some "-//W3C//DTD XHTML 1.0 Strict//EN",
      some "http://www.w3.org/TR/xhtml1/DTD/xhtml1-strict.dtd"⟩ .strict,
   ofDoctype "xhtml1-transitional"
     ⟨"html", some "-//W3C//DTD XHTML 1.0 Transitional//EN",
      some "http://www.w3.org/TR/xhtml1/DTD/xhtml1-transitional.dtd"⟩ .transitional,
   ofDoctype "html401-strict"
     ⟨"HTML", some "-//W3C//DTD HTML 4.01//EN", some "http://www.w3.org/TR/html4/strict.dtd"⟩
     .strict,
   ofDoctype "html401-transitional"
     ⟨"HTML", some "-//W3C//DTD HTML 4.01 Transitional//EN",
      some "http://www.w3.org/TR/html4/loose.dtd"⟩ .transitional]

end Html

end MarkupCompletion
