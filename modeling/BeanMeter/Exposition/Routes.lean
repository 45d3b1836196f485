import BeanMeter.Exposition.SeriesStore
import BeanMeter.Text.Split

/-! # Routes

What the program answers to requests for its own pages.

* `Routes.respond` — the answer to a request.
-/

namespace BeanMeter

/-- An answer to a request. -/
structure RouteReply where
  status : Nat
  contentType : Option String
  /-- The methods that a page has. -/
  allow : Option String
  body : String
  deriving DecidableEq, Repr

namespace Routes

/-- A page and its type. -/
structure Page where
  contentType : String
  body : String
  deriving Repr

/-- The start page. -/
def home : Page where
  contentType := "text/html; charset=utf-8"
  body := "\n".intercalate [
    "<!DOCTYPE html>",
    "<html>",
    "<head>",
    "    <title>jmx-scraper</title>",
    "</head>",
    "<body>",
    "    <h1>jmx-scraper</h1>",
    "    <p>Version: " ++ programVersion ++ "</p>",
    "    <ul>",
    "        <li><a href=\"/health\">Health Check</a></li>",
    "        <li><a href=\"/metrics\">Metrics</a></li>",
    "    </ul>",
    "</body>",
    "</html>"]

/-- The page that says that the program is alive. -/
def health : Page where
  contentType := "application/json"
  body := "\x7b\"status\":\"healthy\",\"version\":\"" ++ programVersion ++ "\"\x7d"

/-- The page with an exposition. -/
def metrics (exposition : String) : Page where
  contentType := "text/plain; version=0.0.4; charset=utf-8"
  body := exposition

/-- The page at a path. -/
def page? (exposition path : String) : Option Page :=
  if path = "/" then some home
  else if path = "/health" then some health
  else if path = "/metrics" then some (metrics exposition)
  else none

/-- The path of a target, without a query. -/
def pathOf (target : String) : String :=
  String.ofList (target.toList.takeWhile fun c => c != '?' && c != '#')

/-- The answer to a request. Pages can be fetched, and asked for without their bodies. -/
def respond (exposition method target : String) : RouteReply :=
  match page? exposition (pathOf target) with
  | none => ⟨404, none, none, ""⟩
  | some p =>
    if method = "GET" then ⟨200, some p.contentType, none, p.body⟩
    else if method = "HEAD" then ⟨200, some p.contentType, none, ""⟩
    else ⟨405, none, some "GET,HEAD", ""⟩

end Routes

end BeanMeter
