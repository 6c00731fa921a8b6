/-
The page that a browser gets from the server.  It names the endpoint, which is
made of the request's headers, in its text and, if a bridge is configured, in
a script; the one is escaped as HTML and the other as JSON.
-/
import Epoxy.HttpValues
import Epoxy.ScriptStrings
import Mathlib.Data.List.DropRight
import Mathlib.Data.List.Infix

namespace Epoxy.Server

open HttpValues HtmlTokens ScriptStrings

/-- What the page depends on of the configuration. -/
structure IndexConfig where
  wispPrefix : Text
  autoconfigureDomain : Option Text
deriving Repr, DecidableEq

/-- Headers with their names in small letters. -/
abbrev HeaderMap := List (String × HeaderValue)

def htmlEscapeChar (c : Char) : Text :=
  if c = '&' then ['&', 'a', 'm', 'p', ';']
  else if c = '<' then ['&', 'l', 't', ';']
  else if c = '>' then ['&', 'g', 't', ';']
  else if c = '"' then ['&', 'q', 'u', 'o', 't', ';']
  else if c = '\'' then ['&', '#', '3', '9', ';']
  else [c]

def htmlEscape (value : Text) : Text := value.flatMap htmlEscapeChar

/-- `char::is_whitespace` -/
def isWhitespace (c : Char) : Bool :=
  (9 ≤ c.toNat && c.toNat ≤ 13) || c.toNat = 32 || c.toNat = 0x85 ||
    c.toNat = 0xa0 || c.toNat = 0x1680 ||
    (0x2000 ≤ c.toNat && c.toNat ≤ 0x200a) || c.toNat = 0x2028 ||
    c.toNat = 0x2029 || c.toNat = 0x202f || c.toNat = 0x205f ||
    c.toNat = 0x3000

def trim (text : Text) : Text :=
  (text.dropWhile isWhitespace).rdropWhile isWhitespace

def eqIgnoreAsciiCase (left right : Text) : Bool :=
  left.map Char.toLower = right.map Char.toLower

def getHeader (headers : HeaderMap) (header : String) : Option Text :=
  (headers.lookup header).bind toStr

/-- Proxies append to these headers; the first value is the client's. -/
def firstHeaderValue (headers : HeaderMap) (name : String) : Option Text :=
  ((getHeader headers name).map fun value =>
    trim (value.takeWhile (· ≠ ','))).filter (· ≠ [])

/-- A proxy in front says that it was reached over TLS. -/
def isSecure (headers : HeaderMap) : Bool :=
  (firstHeaderValue headers "x-forwarded-proto").any (fun value =>
    eqIgnoreAsciiCase value "https".toList ||
      eqIgnoreAsciiCase value "wss".toList) ||
  (firstHeaderValue headers "x-forwarded-ssl").any fun value =>
    eqIgnoreAsciiCase value "on".toList

/-- The host by which the browser reached the server, as it says. -/
def endpointHost (headers : HeaderMap) : Text :=
  ((firstHeaderValue headers "x-forwarded-host").or
    (getHeader headers "host")).getD "localhost:4000".toList

/-- The prefix between two slashes. -/
def endpointPath (config : IndexConfig) : Text :=
  let path := config.wispPrefix.rdropWhile (· = '/')
  if path = [] then ['/']
  else if path.head? = some '/' then path ++ ['/']
  else '/' :: path ++ ['/']

def websocketUrl (config : IndexConfig) (headers : HeaderMap) : Text :=
  let scheme := if isSecure headers then ['w', 's', 's'] else ['w', 's']
  scheme ++ [':', '/', '/'] ++ endpointHost headers ++ endpointPath config

/-- The bridge to connect with and its name, if one is configured that is a
URL of the web; `parse` is the parser of URIs. -/
def autoconfigureTarget (parse : Text → Option Uri) (config : IndexConfig) :
    Option (Text × Text) := do
  let configured := trim (← config.autoconfigureDomain)
  if configured = [] then none
  let target := if "://".toList <:+: configured then configured
    else "https://".toList ++ configured
  let uri ← parse target
  let scheme ← uri.scheme
  if scheme ≠ "http".toList ∧ scheme ≠ "https".toList then none
  let authority ← uri.authority
  some (target, authority)

/-- The constant parts of the page stand in their order. -/
def pageHead : Text :=
  lines [
    "<!doctype html>\n",
    "<html lang=\"en\">\n",
    "<head>\n",
    "  <meta charset=\"utf-8\">\n",
    "  <meta name=\"viewport\" content=\"width=device-width, ",
    "initial-scale=1\">\n",
    "  <title>WISP WebSocket server</title>\n",
    "  <style>"]

def pageStyle : Text :=
  lines [
    "\n",
    "    :root \x7b color-scheme: light; font-family: ui-monospace, ",
    "SFMono-Regular, \"SF Mono\", Menlo, Consolas, \"Liberation Mono\", ",
    "monospace; background: #fafafa; color: #111; \x7d\n",
    "    * \x7b box-sizing: border-box; \x7d\n",
    "    body \x7b min-height: 100vh; margin: 0; background-image: ",
    "radial-gradient(#d8d8d8 0.7px, transparent 0.7px); background-size: ",
    "16px 16px; \x7d\n",
    "    .shell \x7b width: min(72rem, calc(100% - 2rem)); min-height: ",
    "100vh; margin: 0 auto; padding: 1.25rem 0; display: flex; ",
    "flex-direction: column; \x7d\n",
    "    header \x7b display: flex; align-items: center; justify-content: ",
    "space-between; gap: 1rem; padding: 0.9rem 0 1.25rem; font-size: ",
    "0.72rem; letter-spacing: 0.08em; text-transform: uppercase; \x7d\n",
    "    .brand \x7b display: flex; align-items: center; gap: 0.65rem; ",
    "font-weight: 700; \x7d\n",
    "    .mark \x7b width: 1.35rem; height: 1.35rem; display: grid; ",
    "place-items: center; background: #111; color: #fafafa; \x7d\n",
    "    .header-actions \x7b display: flex; align-items: center; gap: ",
    "1.25rem; \x7d\n",
    "    .source-link \x7b display: inline-flex; align-items: center; gap: ",
    "0.4rem; color: #414141; text-underline-offset: 0.2rem; \x7d\n",
    "    .source-link svg \x7b width: 0.9rem; height: 0.9rem; fill: ",
    "currentColor; \x7d\n",
    "    .source-link:hover \x7b color: #111; \x7d\n",
    "    .status \x7b display: flex; align-items: center; gap: 0.45rem; ",
    "color: #414141; \x7d\n",
    "    .status-dot, .pulse \x7b width: 0.5rem; height: 0.5rem; ",
    "border-radius: 50%; background: #22a06b; box-shadow: 0 0 0 3px ",
    "#dff5eb; \x7d\n",
    "    main \x7b flex: 1; display: grid; place-items: center; padding: ",
    "4rem 0; \x7d\n",
    "    .panel \x7b width: min(52rem, 100%); background: #fafafa; border: ",
    "1px solid #111; box-shadow: 8px 8px 0 #111; \x7d\n",
    "    .hero \x7b padding: clamp(2rem, 6vw, 4.5rem); \x7d\n",
    "    .eyebrow \x7b margin: 0 0 1.1rem; color: #666; font-size: 0.72rem; ",
    "letter-spacing: 0.1em; text-transform: uppercase; \x7d\n",
    "    h1 \x7b max-width: 16ch; margin: 0; font-size: clamp(2rem, 6vw, ",
    "4.6rem); line-height: 0.98; letter-spacing: -0.055em; \x7d\n",
    "    .lede \x7b max-width: 40rem; margin: 1.5rem 0 2.25rem; color: ",
    "#414141; font-size: 0.9rem; line-height: 1.65; \x7d\n",
    "    .endpoint-label \x7b display: block; margin-bottom: 0.55rem; color: ",
    "#666; font-size: 0.68rem; letter-spacing: 0.09em; text-transform: ",
    "uppercase; \x7d\n",
    "    .url \x7b display: grid; grid-template-columns: minmax(0, 1fr) ",
    "auto; border: 1px solid #111; background: #fff; \x7d\n",
    "    code \x7b min-width: 0; overflow-wrap: anywhere; padding: 1rem; ",
    "color: #111; font: inherit; line-height: 1.4; \x7d\n",
    "    button \x7b border: 0; border-left: 1px solid #111; border-radius: ",
    "0; padding: 0 1.25rem; background: #111; color: #fff; font: inherit; ",
    "font-size: 0.75rem; font-weight: 700; letter-spacing: 0.05em; ",
    "text-transform: uppercase; cursor: pointer; \x7d\n",
    "    button:hover \x7b background: #333; \x7d\n",
    "    .autoconfigure \x7b display: inline-flex; align-items: center; gap: ",
    "0.55rem; margin-bottom: 1.5rem; padding: 0.85rem 1rem; border: 1px ",
    "solid #111; background: #fff; box-shadow: 3px 3px 0 #111; color: #111; ",
    "font-size: 0.68rem; font-weight: 700; letter-spacing: 0.05em; ",
    "text-decoration: none; transition: transform 120ms ease, box-shadow ",
    "120ms ease; \x7d\n",
    "    .autoconfigure:hover \x7b box-shadow: 1px 1px 0 #111; transform: ",
    "translate(2px, 2px); \x7d\n",
    "    .autoconfigure:focus-visible \x7b outline: 2px solid #111; ",
    "outline-offset: 4px; \x7d\n",
    "    .pulse \x7b display: inline-block; width: 0.4rem; height: 0.4rem; ",
    "background: #5ee6a8; box-shadow: none; animation: blink 1.8s ",
    "infinite; \x7d\n",
    "    @keyframes blink \x7b 50% \x7b opacity: 0.35; \x7d \x7d\n",
    "    @media (max-width: 38rem) \x7b\n",
    "      .shell \x7b width: min(100% - 1.25rem, 72rem); \x7d\n",
    "      .panel \x7b box-shadow: 5px 5px 0 #111; \x7d\n",
    "      .url \x7b grid-template-columns: 1fr; \x7d\n",
    "      button \x7b min-height: 3rem; border-left: 0; border-top: 1px ",
    "solid #111; \x7d\n",
    "    \x7d\n",
    "  "]

def pageHeader : Text :=
  lines [
    "</style>\n",
    "</head>\n",
    "<body>\n",
    "  <div class=\"shell\">\n",
    "    <header>\n",
    "      <div class=\"brand\"><span class=\"mark\">W</span> WISP ",
    "SERVER</div>\n",
    "      <div class=\"header-actions\">\n",
    "        <a class=\"source-link\" ",
    "href=\"https://github.com/wasix-org/epoxy-tls\" target=\"_blank\" ",
    "rel=\"noopener noreferrer\"><svg viewBox=\"0 0 16 16\" ",
    "aria-hidden=\"true\"><path d=\"M8 0C3.58 0 0 3.58 0 8c0 3.54 2.29 6.53 ",
    "5.47 7.59.4.07.55-.17.55-.38 0-.19-.01-.82-.01-1.49-2.01.37-2.53-.49-2.69",
    "-.94-.09-.23-.48-.94-.82-1.13-.28-.15-.68-.52-.01-.53.63-.01 1.08.58 ",
    "1.23.82.72 1.21 1.87.87 2.33.66.07-.52.28-.87.51-1.07-1.78-.2-3.64-.89-3.",
    "64-3.95 0-.87.31-1.59.82-2.15-.08-.2-.36-1.02.08-2.12 0 0 .67-.21 ",
    "2.2.82A7.65 7.65 0 0 1 8 3.52c.68 0 1.36.09 2 .27 1.53-1.04 2.2-.82 ",
    "2.2-.82.44 1.1.16 1.92.08 2.12.51.56.82 1.27.82 2.15 0 3.07-1.87 ",
    "3.75-3.65 3.95.29.25.54.73.54 1.48 0 1.07-.01 1.93-.01 2.2 0 ",
    ".21.15.46.55.38A8.01 8.01 0 0 0 16 8c0-4.42-3.58-8-8-8Z\"/></svg>GitHub ",
    "Source Code</a>\n",
    "        <div class=\"status\"><span class=\"status-dot\"></span> ",
    "ONLINE</div>\n",
    "      </div>\n",
    "    </header>\n",
    "    <main>\n",
    "      <section class=\"panel\">\n",
    "        <div class=\"hero\">\n",
    "          <p class=\"eyebrow\">Connection established</p>\n",
    "          "]

def pageHero : Text :=
  lines [
    "\n",
    "          <h1>WISP WebSocket server configured!</h1>\n",
    "          <p class=\"lede\">Your proxy is online. Copy and paste this ",
    "endpoint into your WISP-compatible client to start routing traffic.</p>\n",
    "          <label class=\"endpoint-label\" for=\"wisp-url\">WebSocket ",
    "endpoint</label>\n",
    "          <div class=\"url\">\n",
    "            <code id=\"wisp-url\">"]

def pageBottom : Text :=
  lines [
    "</code>\n",
    "            <button id=\"copy-url\" type=\"button\">Copy URL</button>\n",
    "          </div>\n",
    "        </div>\n",
    "      </section>\n",
    "    </main>\n",
    "  </div>\n",
    "  <script>\n",
    "    document.getElementById('copy-url').addEventListener('click', async ",
    "(event) => \x7b\n",
    "      await navigator.clipboard.writeText(document.getElementById('wisp-u",
    "rl').textContent);\n",
    "      event.currentTarget.textContent = 'Copied';\n",
    "    \x7d);\n",
    "  </script>\n",
    "  "]

def pageEnd : Text :=
  lines [
    "\n",
    "</body>\n",
    "</html>"]

def linkStart : Text :=
  lines ["<a id=\"autoconfigure\" class=\"autoconfigure\" href=\""]

def linkPulse : Text :=
  lines ["\"><span class=\"pulse\"></span>Automatically connect to "]

def linkEnd : Text :=
  lines ["</a>"]

def scriptStart : Text :=
  lines [
    "<script>\n",
    "  (() => \x7b\n",
    "    const bridgeUrl = "]

def scriptMiddle : Text :=
  lines [
    ";\n",
    "    const endpoint = "]

def scriptEnd : Text :=
  lines [
    ";\n",
    "    const target = new URL(bridgeUrl);\n",
    "    target.searchParams.set('endpoint', endpoint);\n",
    "    document.getElementById('autoconfigure').href = target.href;\n",
    "  \x7d)();\n",
    "</script>"]

def autoconfigureLink : Option (Text × Text) → Text
  | some (bridgeUrl, label) =>
      linkStart ++ htmlEscape bridgeUrl ++ linkPulse ++
        htmlEscape label ++ linkEnd
  | none => []

/-- The script opens the bridge with the endpoint as a parameter. -/
def autoconfigureScript (rawUrl : Text) : Option (Text × Text) → Text
  | some (bridgeUrl, _) =>
      scriptStart ++ jsonString bridgeUrl ++ scriptMiddle ++
        jsonString rawUrl ++ scriptEnd
  | none => []

structure IndexResponse where
  status : Nat
  contentType : String
  cacheControl : String
  body : Text
deriving Repr, DecidableEq

def pageStart : Text :=
  pageHead ++ pageStyle ++ pageHeader

def indexResp (parse : Text → Option Uri) (config : IndexConfig)
    (headers : HeaderMap) : IndexResponse :=
  let rawUrl := websocketUrl config headers
  let autoconfigure := autoconfigureTarget parse config
  { status := 200
    contentType := "text/html; charset=utf-8"
    cacheControl := "no-store"
    body := pageStart ++ autoconfigureLink autoconfigure ++
      pageHero ++ htmlEscape rawUrl ++ pageBottom ++
      autoconfigureScript rawUrl autoconfigure ++ pageEnd }

end Epoxy.Server
