import EmailTemplate.Render.Body

/-!
# Complete emails

The page around a body: the head with the few rules that cannot be inlined, the hidden preheader,
and the centered table whose rows the body is.
-/

namespace EmailTemplate
open Html Html.Step

/-- A `meta` tag with one attribute that names it and the content it has. -/
def metaSteps (key name content : String) : List Step :=
  [startTag "meta", attr key name, attr "content" content, finishSelfClosing, newline]

namespace ShellOptions

/-- The rules for small screens, where columns stand below one another. -/
def rules (options : ShellOptions) : String :=
  "\n@media only screen and (max-width: " ++ toString options.mobileBreakpoint ++
    "px) \x7b\n" ++
    "  .container \x7b width: 100% !important; \x7d\n" ++
    "  .row .column \x7b display: block !important; width: 100% !important; " ++
    "max-width: 100% !important; \x7d\n" ++
    "  img \x7b max-width: 100% !important; height: auto !important; \x7d\n" ++
    "  a \x7b max-width: 100% !important; word-break: break-word; \x7d\n" ++
    "\x7d\n"

/-- The rules as a style sheet. -/
def styleSheet (options : ShellOptions) : String :=
  "<style>" ++ options.rules ++ "</style>\n"

/-- The head of the page. -/
def headSteps (options : ShellOptions) : List Step :=
  [verbatim "<head>\n", startTag "meta", attr "charset" "UTF-8", finishSelfClosing, newline] ++
    metaSteps "name" "viewport" "width=device-width, initial-scale=1.0" ++
    metaSteps "http-equiv" "X-UA-Compatible" "IE=edge" ++
    around "title" [] [text options.title] ++
    [newline, verbatim options.styleSheet, verbatim "</head>\n"]

/-- The hidden text that an inbox shows, if there is one. -/
def preheaderSteps (options : ShellOptions) : List Step :=
  if options.preheader.isEmpty then []
  else
    around "div"
      [style [css "display" "none", css "max-height" "0", css "overflow" "hidden",
        css "mso-hide" "all"]]
      [text options.preheader] ++
    [newline]

/-- The steps before the body: up to the start tag of the table whose rows it is. -/
def openingSteps (options : ShellOptions) : List Step :=
  [verbatim "<!DOCTYPE html>\n", startTag "html", attr "lang" options.lang,
    attr "xmlns" "http://www.w3.org/1999/xhtml", finishTag, newline] ++
    options.headSteps ++
    [startTag "body",
      style [css "margin" "0", css "padding" "0",
        css "background-color" options.pageBackground],
      finishTag, newline] ++
    options.preheaderSteps ++
    presentationTable "100%" ++
    [style [css "background-color" options.pageBackground], finishTag,
      verbatim "\n<tr>\n", startTag "td", attr "align" "center",
      style [css "padding" "20px 0"], finishTag, newline] ++
    presentationTable (toString options.maxWidth) ++
    [attr "class" "container",
      style [css "width" "100%", pixels "max-width" options.maxWidth,
        css "background-color" options.containerBackground,
        css "border" "1px solid #e5e5e5", css "border-radius" "4px",
        css "box-shadow" "0 2px 8px rgba(0, 0, 0, 0.08)"],
      finishTag, newline]

/-- The markup behind the body. -/
def closing : String :=
  "</table>\n</td>\n</tr>\n</table>\n</body>\n</html>\n"

/-- The page around a body that is written already. -/
def page (options : ShellOptions) (body : String) : String :=
  write (options.openingSteps ++ [verbatim body, verbatim closing])

end ShellOptions

namespace Document

/-- The email of a document. -/
def compile (options : CompileOptions) (doc : Document) : String :=
  options.shell.page (doc.compose options)

/-- What is reported when a document is compiled. -/
def compileNotices (options : CompileOptions) (doc : Document) : List Notice :=
  doc.composeNotices ++
    [.compiled doc.layoutRows.length doc.canvasItems.length (doc.compile options).utf8ByteSize]

end Document

end EmailTemplate
