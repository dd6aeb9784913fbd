import PageMigration.Html.Builder

/-!
# Rules for building trees of markup

Each mode of the construction has rules for the next item: a character, a start tag, an end tag, a
comment or the end of the text.  A rule may leave the item to the rules of another mode; the
number of such steps for one item is bounded.

The tree is that of a fragment in the body of a page on which scripts run.

## Main definitions

* `Html.Item` : what the rules are about.
* `Html.applyRules` : the treatment of one item.
* `Html.parseFragment` : the tree of a fragment.
-/

namespace PageMigration.Html

/-- What the rules are about. -/
inductive Item where
  | char (c : Char)
  | start (tag : Tag)
  | stop (name : String)
  | comment
  | finish
  deriving DecidableEq, Repr

open Build

/-- The start and end tags that are treated alike wherever they stand. -/
def isHeadItem : Item → Bool
  | .start tag =>
      ["base", "basefont", "bgsound", "link", "meta", "noframes", "script", "style", "template",
        "title"].contains tag.name
  | .stop name => name == "template"
  | _ => false

/-- A start tag with one of several names. -/
def isStartOf (names : List String) : Item → Bool
  | .start tag => names.contains tag.name
  | _ => false

/-- An end tag with one of several names. -/
def isStopOf (names : List String) : Item → Bool
  | .stop name => names.contains name
  | _ => false

/-- A template begins. -/
def startTemplate (tag : Tag) : Build Unit := do
  addMarker
  modify fun b => { b with mode := .template, templateModes := .template :: b.templateModes }
  insertTag tag

/-- A template ends. -/
def stopTemplate : Build Unit := do
  if ← ask (·.hasOpen "template") then
    closeImplied allImpliedEnds
    popThrough ["template"]
    clearToMarker
    modify fun b => { b with templateModes := b.templateModes.tail }
    modify fun b => { b with mode := b.fittingMode }

/-- The rules for metadata. -/
def headRules : Item → Build Unit
  | .start tag =>
      match tag.name with
      | "base" | "basefont" | "bgsound" | "link" | "meta" => insertEmpty tag
      | "title" => insertPlain tag (.escapable "title")
      | "noframes" | "style" => insertPlain tag (.raw tag.name)
      | "script" => insertPlain tag .script
      | "template" => startTemplate tag
      | _ => return ()
  | .stop "template" => stopTemplate
  | _ => return ()

/-- Whether an input field is hidden. -/
def isHiddenInput (tag : Tag) : Bool :=
  tag.attributes.any fun a =>
    a.name == "type".toList && a.value.map Char.toLower == "hidden".toList

/-- The open element that a list item closes, if it closes one. -/
def itemToClose? (b : Builder) (names : List String) : List Nat → Option String
  | [] => none
  | id :: rest =>
      let e := b.elementOf id
      if e.isOneOf names then some e.name
      else if isSpecial e && !e.isOneOf ["address", "div", "p"] then none
      else itemToClose? b names rest

/-- A list item begins. -/
def startListItem (tag : Tag) : Build Unit := do
  let names := if tag.name = "li" then ["li"] else ["dd", "dt"]
  match ← ask fun b => itemToClose? b names b.stack with
  | some name =>
      closeImpliedExcept name
      popThrough [name]
  | none => pure ()
  closeParagraphInScope
  insertTag tag

/-- An element that nothing special is known about begins. -/
def startOrdinary (tag : Tag) : Build Unit := do
  reopenFormatting
  insertTag tag

/-- A form ends. -/
def stopForm : Build Unit := do
  let b ← get
  if b.hasOpen "template" then
    if b.hasInScope boundsScope "form" then
      closeImplied impliedEnds
      popThrough ["form"]
  else
    match b.form with
    | none => return ()
    | some id =>
        modify fun b => { b with form := none }
        if b.inScope boundsScope (fun i _ => i == id) b.stack then
          closeImplied impliedEnds
          removeOpen id

/-- An element of another vocabulary begins. -/
def startForeign (tag : Tag) (vocabulary : Vocabulary) : Build Unit := do
  let _ ← insertElement { vocabulary, name := tag.name, attributes := tag.attributes }
    (!tag.selfClosing)

/-- The rules for start tags in the body of a page. -/
def bodyStart (tag : Tag) : Build Unit := do
  match tag.name with
  | "html" | "body" | "frameset" | "caption" | "col" | "colgroup" | "frame" | "head" | "tbody"
  | "td" | "tfoot" | "th" | "thead" | "tr" => return ()
  | "address" | "article" | "aside" | "blockquote" | "center" | "details" | "dialog" | "dir"
  | "div" | "dl" | "fieldset" | "figcaption" | "figure" | "footer" | "header" | "hgroup" | "main"
  | "menu" | "nav" | "ol" | "p" | "search" | "section" | "summary" | "ul" =>
      closeParagraphInScope
      insertTag tag
  | "h1" | "h2" | "h3" | "h4" | "h5" | "h6" =>
      closeParagraphInScope
      if ← ask (·.currentIs headings) then pop
      insertTag tag
  | "pre" | "listing" =>
      closeParagraphInScope
      insertTag tag
      modify fun b => { b with skipsNewline := true }
  | "form" =>
      let inTemplate ← ask (·.hasOpen "template")
      if !(← ask (·.form.isSome)) || inTemplate then
        closeParagraphInScope
        insertTag tag
        if !inTemplate then modify fun b => { b with form := some b.current }
  | "li" | "dd" | "dt" => startListItem tag
  | "plaintext" =>
      closeParagraphInScope
      insertTag tag
      modify fun b => { b with textMode := .plain }
  | "button" =>
      if ← ask (·.hasInScope boundsScope "button") then
        closeImplied impliedEnds
        popThrough ["button"]
      startOrdinary tag
  | "a" =>
      closeOpenAnchor
      reopenFormatting
      insertFormatting tag
  | "b" | "big" | "code" | "em" | "font" | "i" | "s" | "small" | "strike" | "strong" | "tt"
  | "u" =>
      reopenFormatting
      insertFormatting tag
  | "nobr" =>
      reopenFormatting
      if ← ask (·.hasInScope boundsScope "nobr") then
        adopt "nobr"
        reopenFormatting
      insertFormatting tag
  | "applet" | "marquee" | "object" =>
      startOrdinary tag
      addMarker
  | "table" =>
      closeParagraphInScope
      insertTag tag
      setMode .table
  | "area" | "br" | "embed" | "img" | "keygen" | "wbr" | "input" =>
      reopenFormatting
      insertEmpty tag
  | "image" =>
      reopenFormatting
      insertEmpty { tag with name := "img" }
  | "param" | "source" | "track" => insertEmpty tag
  | "hr" =>
      closeParagraphInScope
      insertEmpty tag
  | "textarea" =>
      insertPlain tag (.escapable "textarea")
      modify fun b => { b with skipsNewline := true }
  | "xmp" =>
      closeParagraphInScope
      reopenFormatting
      insertPlain tag (.raw "xmp")
  | "iframe" | "noembed" | "noscript" => insertPlain tag (.raw tag.name)
  | "select" =>
      startOrdinary tag
      modify fun b => { b with
        mode := match b.mode with
          | .table | .caption | .tableBody | .row | .cell => .selectInTable
          | _ => .select }
  | "optgroup" | "option" =>
      if ← ask (·.currentIs ["option"]) then pop
      startOrdinary tag
  | "rb" | "rtc" =>
      if ← ask (·.hasInScope boundsScope "ruby") then closeImplied impliedEnds
      insertTag tag
  | "rp" | "rt" =>
      if ← ask (·.hasInScope boundsScope "ruby") then closeImpliedExcept "rtc"
      insertTag tag
  | "math" =>
      reopenFormatting
      startForeign tag .mathMl
  | "svg" =>
      reopenFormatting
      startForeign tag .svg
  | _ => startOrdinary tag

/-- The rules for end tags in the body of a page. -/
def bodyStop (name : String) : Build Unit := do
  match name with
  | "body" | "html" => return ()
  | "address" | "article" | "aside" | "blockquote" | "button" | "center" | "details" | "dialog"
  | "dir" | "div" | "dl" | "fieldset" | "figcaption" | "figure" | "footer" | "header" | "hgroup"
  | "listing" | "main" | "menu" | "nav" | "ol" | "pre" | "search" | "section" | "summary"
  | "ul" =>
      if ← ask (·.hasInScope boundsScope name) then
        closeImplied impliedEnds
        popThrough [name]
  | "form" => stopForm
  | "p" =>
      if !(← ask (·.hasInScope boundsButtonScope "p")) then insertMissing "p"
      closeParagraph
  | "li" =>
      if ← ask (·.hasInScope boundsItemScope "li") then
        closeImpliedExcept "li"
        popThrough ["li"]
  | "dd" | "dt" =>
      if ← ask (·.hasInScope boundsScope name) then
        closeImpliedExcept name
        popThrough [name]
  | "h1" | "h2" | "h3" | "h4" | "h5" | "h6" =>
      if ← ask fun b => b.inScope boundsScope (fun _ e => e.isOneOf headings) b.stack then
        closeImplied impliedEnds
        popThrough headings
  | "a" | "b" | "big" | "code" | "em" | "font" | "i" | "nobr" | "s" | "small" | "strike"
  | "strong" | "tt" | "u" => adopt name
  | "applet" | "marquee" | "object" =>
      if ← ask (·.hasInScope boundsScope name) then
        closeImplied impliedEnds
        popThrough [name]
        clearToMarker
  | "br" =>
      reopenFormatting
      insertEmpty { name := "br" }
  | _ => closeOrdinary name

/-- The cell of a table that is open is closed. -/
def closeCell : Build Unit := do
  closeImplied impliedEnds
  popThrough ["td", "th"]
  clearToMarker

/-- Whether a caption that is open is closed. -/
def closeCaption : Build Bool := do
  if ← ask (·.hasInScope boundsTableScope "caption") then
    closeImplied impliedEnds
    popThrough ["caption"]
    clearToMarker
    return true
  else return false

/-- The elements that bound the content of a table, of its body and of a row. -/
def tableContext : List String := ["html", "table", "template"]

@[inherit_doc tableContext]
def tableBodyContext : List String := ["tbody", "tfoot", "thead", "template", "html"]

@[inherit_doc tableContext]
def rowContext : List String := ["tr", "template", "html"]

/-- What an end tag in foreign content does. -/
inductive ForeignStop where
  /-- The open elements are those given. -/
  | close (stack : List Nat)
  /-- The rules of the mode apply. -/
  | leave
  | ignore

/-- An end tag in foreign content closes the innermost element of its name, up to the first one
of the page.  The flag says whether elements were passed over. -/
def foreignStop (b : Builder) (name : String) (passed : Bool) : List Nat → ForeignStop
  | [] => .ignore
  | [_] => .ignore
  | id :: rest =>
      let e := b.elementOf id
      if passed && e.vocabulary == .html then .leave
      else if e.name.toList.map Char.toLower == name.toList then .close rest
      else foreignStop b name true rest

/-- Whether an item is treated as foreign content. -/
def isForeign (b : Builder) (item : Item) : Bool :=
  let e := b.currentElement
  match item with
  | .finish => false
  | .char _ => e.vocabulary != .html && !isMathText e && !isGraphicsText e
  | .start tag =>
      e.vocabulary != .html && !isGraphicsText e &&
        !(isMathText e && tag.name != "mglyph" && tag.name != "malignmark") &&
        !(e.vocabulary == .mathMl && e.name == "annotation-xml" && tag.name == "svg")
  | _ => e.vocabulary != .html

mutual

/-- The treatment of an item by the rules of a mode. -/
def modeRules : Nat → InsertionMode → Item → Build Unit
  | 0, _, _ => return ()
  | fuel + 1, .body, item => bodyRules fuel item
  | fuel + 1, .text, item => textRules fuel item
  | fuel + 1, .table, item => tableRules fuel item
  | fuel + 1, .tableText, item => tableTextRules fuel item
  | fuel + 1, .caption, item => captionRules fuel item
  | fuel + 1, .columnGroup, item => columnGroupRules fuel item
  | fuel + 1, .tableBody, item => tableBodyRules fuel item
  | fuel + 1, .row, item => rowRules fuel item
  | fuel + 1, .cell, item => cellRules fuel item
  | fuel + 1, .select, item => selectRules fuel item
  | fuel + 1, .selectInTable, item => selectInTableRules fuel item
  | fuel + 1, .template, item => templateRules fuel item

/-- An item is treated anew in another mode, or as foreign content. -/
def again (fuel : Nat) (mode : InsertionMode) (item : Item) : Build Unit := do
  match fuel with
  | 0 => return ()
  | fuel + 1 =>
      setMode mode
      if ← ask fun b => isForeign b item then foreignRules fuel item
      else modeRules fuel mode item

/-- An item that a table cannot hold is treated by the rules of the body. -/
def fosterRules (fuel : Nat) (item : Item) : Build Unit := do
  match fuel with
  | 0 => return ()
  | fuel + 1 =>
      modify fun b => { b with fostering := true }
      bodyRules fuel item
      modify fun b => { b with fostering := false }

/-- The rules for the body of a page. -/
def bodyRules (fuel : Nat) (item : Item) : Build Unit := do
  match fuel with
  | 0 => return ()
  | fuel + 1 =>
      if isHeadItem item then headRules item
      else
        match item with
        | .char c =>
            if c != '\x00' then
              reopenFormatting
              insertChar c
        | .comment => insertComment
        | .start tag => bodyStart tag
        | .stop name => bodyStop name
        | .finish =>
            if ← ask (!·.templateModes.isEmpty) then modeRules fuel .template item

/-- The rules for the plain text of an element. -/
def textRules (fuel : Nat) (item : Item) : Build Unit := do
  match fuel with
  | 0 => return ()
  | fuel + 1 =>
      match item with
      | .char c => insertChar c
      | .finish =>
          pop
          modify fun b => { b with textMode := .markup }
          again fuel (← ask (·.returnMode)) item
      | .stop _ =>
          pop
          modify fun b => { b with mode := b.returnMode, textMode := .markup }
      | _ => return ()

/-- The rules for the content of a table. -/
def tableRules (fuel : Nat) (item : Item) : Build Unit := do
  match fuel with
  | 0 => return ()
  | fuel + 1 =>
      match item with
      | .char _ =>
          if ← ask (·.currentIs ["table", "tbody", "tfoot", "thead", "tr"]) then
            modify fun b => { b with returnMode := b.mode }
            again fuel .tableText item
          else fosterRules fuel item
      | .comment => insertComment
      | .finish => modeRules fuel .body item
      | .stop name =>
          match name with
          | "table" =>
              if ← ask (·.hasInScope boundsTableScope "table") then
                popThrough ["table"]
                modify fun b => { b with mode := b.fittingMode }
          | "body" | "caption" | "col" | "colgroup" | "html" | "tbody" | "td" | "tfoot" | "th"
          | "thead" | "tr" => return ()
          | "template" => headRules item
          | _ => fosterRules fuel item
      | .start tag =>
          match tag.name with
          | "caption" =>
              popTo tableContext
              addMarker
              insertTag tag
              setMode .caption
          | "colgroup" =>
              popTo tableContext
              insertTag tag
              setMode .columnGroup
          | "col" =>
              popTo tableContext
              insertMissing "colgroup"
              again fuel .columnGroup item
          | "tbody" | "tfoot" | "thead" =>
              popTo tableContext
              insertTag tag
              setMode .tableBody
          | "td" | "th" | "tr" =>
              popTo tableContext
              insertMissing "tbody"
              again fuel .tableBody item
          | "table" =>
              if ← ask (·.hasInScope boundsTableScope "table") then
                popThrough ["table"]
                again fuel (← ask (·.fittingMode)) item
          | "style" | "script" | "template" => headRules item
          | "input" => if isHiddenInput tag then insertEmpty tag else fosterRules fuel item
          | "form" =>
              let b ← get
              if !b.hasOpen "template" && b.form.isNone then
                let id ← insertElement { name := tag.name, attributes := tag.attributes } false
                modify fun b => { b with form := some id }
          | _ => fosterRules fuel item

/-- The rules for the text of a table. -/
def tableTextRules (fuel : Nat) (item : Item) : Build Unit := do
  match fuel with
  | 0 => return ()
  | fuel + 1 =>
      match item with
      | .char c => if c != '\x00' then modify fun b => { b with pending := c :: b.pending }
      | item =>
          let chars := (← ask (·.pending)).reverse
          modify fun b => { b with pending := [] }
          if chars.all isSpace then chars.forM insertChar
          else
            chars.forM fun c => do
              modify fun b => { b with fostering := true }
              reopenFormatting
              insertChar c
              modify fun b => { b with fostering := false }
          again fuel (← ask (·.returnMode)) item

/-- The rules for the caption of a table. -/
def captionRules (fuel : Nat) (item : Item) : Build Unit := do
  match fuel with
  | 0 => return ()
  | fuel + 1 =>
      if isStopOf ["caption"] item then
        if ← closeCaption then setMode .table
      else if isStartOf ["caption", "col", "colgroup", "tbody", "td", "tfoot", "th", "thead",
          "tr"] item || isStopOf ["table"] item then
        if ← closeCaption then again fuel .table item
      else if isStopOf ["body", "col", "colgroup", "html", "tbody", "td", "tfoot", "th", "thead",
          "tr"] item then return ()
      else bodyRules fuel item

/-- The rules for the columns of a table. -/
def columnGroupRules (fuel : Nat) (item : Item) : Build Unit := do
  match fuel with
  | 0 => return ()
  | fuel + 1 =>
      let other : Build Unit := do
        if ← ask (·.currentIs ["colgroup"]) then
          pop
          again fuel .table item
      match item with
      | .char c => if isSpace c then insertChar c else other
      | .comment => insertComment
      | .finish => modeRules fuel .body item
      | .start tag =>
          match tag.name with
          | "html" => return ()
          | "col" => insertEmpty tag
          | "template" => headRules item
          | _ => other
      | .stop name =>
          match name with
          | "colgroup" =>
              if ← ask (·.currentIs ["colgroup"]) then
                pop
                setMode .table
          | "col" => return ()
          | "template" => headRules item
          | _ => other

/-- The rules for a part of a table that holds rows. -/
def tableBodyRules (fuel : Nat) (item : Item) : Build Unit := do
  match fuel with
  | 0 => return ()
  | fuel + 1 =>
      if let .start tag := item then
        if tag.name = "tr" then
          popTo tableBodyContext
          insertTag tag
          setMode .row
          return ()
      if isStartOf ["th", "td"] item then
        popTo tableBodyContext
        insertMissing "tr"
        again fuel .row item
      else if isStopOf ["tbody", "tfoot", "thead"] item then
        if let .stop name := item then
          if ← ask (·.hasInScope boundsTableScope name) then
            popTo tableBodyContext
            pop
            setMode .table
      else if isStartOf ["caption", "col", "colgroup", "tbody", "tfoot", "thead"] item ||
          isStopOf ["table"] item then
        if ← ask fun b =>
            b.inScope boundsTableScope (fun _ e => e.isOneOf ["table", "tbody", "tfoot"]) b.stack
          then
          popTo tableBodyContext
          pop
          again fuel .table item
      else if isStopOf ["body", "caption", "col", "colgroup", "html", "td", "th", "tr"] item then
        return ()
      else modeRules fuel .table item

/-- The rules for a row of a table. -/
def rowRules (fuel : Nat) (item : Item) : Build Unit := do
  match fuel with
  | 0 => return ()
  | fuel + 1 =>
      let leaveRow : Build Unit := do
        if ← ask (·.hasInScope boundsTableScope "tr") then
          popTo rowContext
          pop
          again fuel .tableBody item
      if isStartOf ["th", "td"] item then
        if let .start tag := item then
          popTo rowContext
          insertTag tag
          setMode .cell
          addMarker
      else if isStopOf ["tr"] item then
        if ← ask (·.hasInScope boundsTableScope "tr") then
          popTo rowContext
          pop
          setMode .tableBody
      else if isStartOf ["caption", "col", "colgroup", "tbody", "tfoot", "thead", "tr"] item ||
          isStopOf ["table"] item then leaveRow
      else if isStopOf ["tbody", "tfoot", "thead"] item then
        if let .stop name := item then
          if ← ask (·.hasInScope boundsTableScope name) then leaveRow
      else if isStopOf ["body", "caption", "col", "colgroup", "html", "td", "th"] item then
        return ()
      else modeRules fuel .table item

/-- The rules for a cell of a table. -/
def cellRules (fuel : Nat) (item : Item) : Build Unit := do
  match fuel with
  | 0 => return ()
  | fuel + 1 =>
      if isStopOf ["td", "th"] item then
        if let .stop name := item then
          if ← ask (·.hasInScope boundsTableScope name) then
            closeImplied impliedEnds
            popThrough [name]
            clearToMarker
            setMode .row
      else if isStartOf ["caption", "col", "colgroup", "tbody", "td", "tfoot", "th", "thead",
          "tr"] item then
        if ← ask fun b =>
            b.inScope boundsTableScope (fun _ e => e.isOneOf ["td", "th"]) b.stack then
          closeCell
          again fuel .row item
      else if isStopOf ["body", "caption", "col", "colgroup", "html"] item then return ()
      else if isStopOf ["table", "tbody", "tfoot", "thead", "tr"] item then
        if let .stop name := item then
          if ← ask (·.hasInScope boundsTableScope name) then
            closeCell
            again fuel .row item
      else bodyRules fuel item

/-- The rules for the content of a selection. -/
def selectRules (fuel : Nat) (item : Item) : Build Unit := do
  match fuel with
  | 0 => return ()
  | fuel + 1 =>
      let closeOptions : Build Unit := do
        if ← ask (·.currentIs ["option"]) then pop
        if ← ask (·.currentIs ["optgroup"]) then pop
      let closeSelect : Build Unit := do
        if ← ask (·.hasInScope boundsSelectScope "select") then
          popThrough ["select"]
          modify fun b => { b with mode := b.fittingMode }
      match item with
      | .char c => if c != '\x00' then insertChar c
      | .comment => insertComment
      | .finish => modeRules fuel .body item
      | .start tag =>
          match tag.name with
          | "option" =>
              if ← ask (·.currentIs ["option"]) then pop
              insertTag tag
          | "optgroup" =>
              closeOptions
              insertTag tag
          | "hr" =>
              closeOptions
              insertEmpty tag
          | "select" => closeSelect
          | "input" | "keygen" | "textarea" =>
              if ← ask (·.hasInScope boundsSelectScope "select") then
                popThrough ["select"]
                again fuel (← ask (·.fittingMode)) item
          | "script" | "template" => headRules item
          | _ => return ()
      | .stop name =>
          match name with
          | "optgroup" =>
              let b ← get
              if b.currentIs ["option"] &&
                  (b.stack[1]?.any fun id => (b.elementOf id).isOneOf ["optgroup"]) then pop
              if ← ask (·.currentIs ["optgroup"]) then pop
          | "option" => if ← ask (·.currentIs ["option"]) then pop
          | "select" => closeSelect
          | "template" => headRules item
          | _ => return ()

/-- The rules for the content of a selection in a table. -/
def selectInTableRules (fuel : Nat) (item : Item) : Build Unit := do
  match fuel with
  | 0 => return ()
  | fuel + 1 =>
      let parts := ["caption", "table", "tbody", "tfoot", "thead", "tr", "td", "th"]
      if isStartOf parts item then
        popThrough ["select"]
        again fuel (← ask (·.fittingMode)) item
      else if isStopOf parts item then
        if let .stop name := item then
          if ← ask (·.hasInScope boundsTableScope name) then
            popThrough ["select"]
            again fuel (← ask (·.fittingMode)) item
      else selectRules fuel item

/-- The rules for the content of a template. -/
def templateRules (fuel : Nat) (item : Item) : Build Unit := do
  match fuel with
  | 0 => return ()
  | fuel + 1 =>
      let switch (mode : InsertionMode) : Build Unit := do
        modify fun b => { b with templateModes := mode :: b.templateModes.tail }
        again fuel mode item
      if isHeadItem item then headRules item
      else
        match item with
        | .char _ | .comment => bodyRules fuel item
        | .start tag =>
            match tag.name with
            | "caption" | "colgroup" | "tbody" | "tfoot" | "thead" => switch .table
            | "col" => switch .columnGroup
            | "tr" => switch .tableBody
            | "td" | "th" => switch .row
            | _ => switch .body
        | .stop _ => return ()
        | .finish =>
            if ← ask (·.hasOpen "template") then
              popThrough ["template"]
              clearToMarker
              modify fun b => { b with templateModes := b.templateModes.tail }
              again fuel (← ask (·.fittingMode)) item

/-- Foreign elements are closed up to one that holds content of the page, and an item is treated
by the rules of the mode. -/
def leaveForeign (fuel : Nat) (item : Item) : Build Unit := do
  match fuel with
  | 0 => return ()
  | fuel + 1 =>
      modify fun b => { b with
        stack := b.stack.dropWhile fun id =>
          let e := b.elementOf id
          e.vocabulary != .html && !isMathText e && !isGraphicsText e }
      modeRules fuel (← ask (·.mode)) item

/-- The rules for foreign content. -/
def foreignRules (fuel : Nat) (item : Item) : Build Unit := do
  match fuel with
  | 0 => return ()
  | fuel + 1 =>
      match item with
      | .char c => insertChar (replaceNul c)
      | .comment => insertComment
      | .finish => return ()
      | .stop name =>
          if name = "br" || name = "p" then leaveForeign fuel item
          else
            match ← ask fun b => foreignStop b name false b.stack with
            | .close stack => modify fun b => { b with stack }
            | .leave => modeRules fuel (← ask (·.mode)) item
            | .ignore => return ()
      | .start tag =>
          let leaves :=
            ["b", "big", "blockquote", "body", "br", "center", "code", "dd", "div", "dl", "dt",
              "em", "embed", "h1", "h2", "h3", "h4", "h5", "h6", "head", "hr", "i", "img", "li",
              "listing", "menu", "meta", "nobr", "ol", "p", "pre", "ruby", "s", "small", "span",
              "strong", "strike", "sub", "sup", "table", "tt", "u", "ul", "var"].contains
                tag.name ||
            (tag.name == "font" && tag.attributes.any fun a =>
              ["color".toList, "face".toList, "size".toList].contains a.name)
          if leaves then leaveForeign fuel item
          else startForeign tag (← ask (·.currentElement.vocabulary))

end

/-- The treatment of one item. -/
def applyRules (item : Item) : Build Unit := do
  let b ← get
  let fuel := 100 + 20 * b.stack.length
  if isForeign b item then foreignRules fuel item else modeRules fuel b.mode item

/-- The treatment of a character; a line feed at the start of some elements is left out. -/
def applyText (chars : List Char) : Build Unit := do
  let skips ← ask (·.skipsNewline)
  modify fun b => { b with skipsNewline := false }
  let chars := match skips, chars with
    | true, '\n' :: rest => rest
    | _, chars => chars
  chars.forM fun c => applyRules (.char c)

/-- The treatment of one token. -/
def applyToken : Token → Build Unit
  | .text chars => applyText chars
  | .startTag tag => do
      modify fun b => { b with skipsNewline := false }
      applyRules (.start tag)
  | .endTag name => do
      modify fun b => { b with skipsNewline := false }
      applyRules (.stop name)
  | .comment => do
      modify fun b => { b with skipsNewline := false }
      applyRules .comment
  | .documentType => modify fun b => { b with skipsNewline := false }
  | .endOfText => applyRules .finish

/-- The treatment of all tokens of a text, the number of which the first argument bounds. -/
def applyTokens : Nat → List Char → Build Unit
  | 0, _ => return ()
  | fuel + 1, s => do
      let b ← get
      let (token, rest) := nextToken b.textMode (b.currentElement.vocabulary != .html) s
      applyToken token
      if token != .endOfText then applyTokens fuel rest

/-- A text with one kind of line end and without the mark of its byte order. -/
def normalizeNewlines : List Char → List Char
  | [] => []
  | '\r' :: '\n' :: s => '\n' :: normalizeNewlines s
  | '\r' :: s => '\n' :: normalizeNewlines s
  | c :: s => c :: normalizeNewlines s

/-- A text without the mark of its byte order. -/
def dropByteOrderMark : List Char → List Char
  | '\uFEFF' :: s => s
  | s => s

/-- The root element of the tree of a fragment. -/
def rootElement : Nat := 1

/-- The state before the first token: a document with a root element. -/
def initialBuilder : Builder :=
  let document : Node := { content := .document, children := [rootElement] }
  let root : Node := { content := .element { name := "html" }, parent := some 0 }
  { tree := #[document, root], stack := [rootElement] }

/-- The tree of a fragment in the body of a page. -/
def parseFragment (markup : String) : Tree :=
  let s := normalizeNewlines (dropByteOrderMark markup.toList)
  ((applyTokens (s.length + 2) s).run initialBuilder).2.tree

end PageMigration.Html
