import Linkcut.Exposition
import Linkcut.Http
import Linkcut.Settings
import Linkcut.Stats

/-!
The web interface: `/health` answers even when the figures cannot be had, `/metrics` does not. Both
collect the figures in one way, `Controller.collectStats`.
-/

set_option autoImplicit false

namespace Linkcut

structure Api where
  controller : Controller
  settings : Settings
  time : Value := .int 0

namespace Api

open Http

instance : Inhabited Api := ⟨{ controller := default, settings := {} }⟩

def serviceName : String := "reconnect-harness"
def version : String := "0.1.0"

def log (a : Api) (level : Level) (message : String) (fields : List (String × Value)) : Api :=
  let entry : Log.Entry := { level, logger := Log.rootName, message, fields }
  { a with controller := { a.controller with site := a.controller.site.log entry } }

def fixedFields (a : Api) : List (String × Value) :=
  [("status", .str "healthy"), ("service", .str serviceName), ("version", .str version),
   ("environment", .str a.settings.environment)]

/-- What stands for the figures when they cannot be had. -/
def unavailable : List (String × Value) := [("error", .str "stats_unavailable")]

/-- What `/health` answers with these figures, or with what stands for them. Of two fields of one
name the later one stands. -/
def merged (a : Api) (stats : List (String × Value)) : Names Value :=
  (Names.ofPairs a.fixedFields).enterAll stats

/-- Collects all figures. -/
def stats (a : Api) : Except Fault (Names Value) × Api :=
  let (r, c) := Controller.collectStats.on a.controller
  (r, { a with controller := c })

/-- The fields of `/health`. A fatal fault is not answered. -/
def health (a : Api) : Except Fault (Names Value) × Api :=
  match a.stats with
  | (.ok fields, a) => (.ok (a.merged fields), a)
  | (.error f, a) =>
    if f.isOrdinary then
      (.ok (a.merged unavailable),
        a.log .warning "Failed to get stats in health check" [("error", .str f.message)])
    else (.error f, a)

/-- The text of `/metrics`. -/
def scrape (a : Api) : Except Fault String × Api :=
  match a.stats with
  | (.ok fields, a) => (Exposition.expose Exposition.defaultScope (.ofFields fields) a.time, a)
  | (.error f, a) => (.error f, a)

def metrics (a : Api) : Except Fault String := a.scrape.1

def metricsType : String := "text/plain; version=0.0.4; charset=utf-8"

inductive Page where
  | health
  | metrics
  deriving DecidableEq, Repr

def Page.all : List Page := [.health, .metrics]

def Page.path : Page → String
  | .health => "/health"
  | .metrics => "/metrics"

/-- The page at a path; the end of a line may follow it. -/
def page? (path : String) : Option Page :=
  Page.all.find? fun p => path == p.path || path == p.path ++ "\n"

/-- The paths of the documents that describe the interface. -/
def documents : List String := ["/docs", "/docs/oauth2-redirect", "/redoc", "/openapi.json"]

/-- Something is at the path: a page or a document. -/
def isKnown (path : String) : Bool :=
  (page? path).isSome || documents.any fun d => path == d || path == d ++ "\n"

def origin : String := "http://testhost"

/-- The path without slashes at its end, if there are any. -/
def withoutSlashes? (path : String) : Option String :=
  let cs := path.toList
  let rest := Text.trimEnd (· == '/') cs
  if rest.length < cs.length then some (String.ofList rest) else none

/-- The answer of a page, with `most` digits at most in a whole number. Only reading is allowed. -/
def showPage (a : Api) (most : Nat) (page : Page) : Except Fault Http.Response × Api :=
  match page with
  | .health =>
    match a.health with
    | (.ok fields, a) =>
      match (Value.ofFields fields).toJson most with
      | .ok tree => (.ok (jsonResponse 200 tree), a)
      | .error f => (.ok (internalError f), a)
    | (.error f, a) => (.error f, a)
  | .metrics =>
    match a.scrape with
    | (.ok text, a) => (.ok (textResponse 200 metricsType text), a)
    | (.error f, a) =>
      if f.isOrdinary then (.ok (internalError f.awaited), a) else (.error f, a)

/-- Answers a request. A path with slashes after a known one is redirected there. -/
def respond (a : Api) (most : Nat) (r : Http.Request) : Except Fault Http.Response × Api :=
  match page? r.path with
  | some page => if r.method = "GET" then a.showPage most page else (.ok (notAllowed "GET"), a)
  | none =>
    match (withoutSlashes? r.path).filter isKnown with
    | some path =>
      let query := if r.query = "" then "" else "?" ++ r.query
      (.ok (redirect (origin ++ path ++ query)), a)
    | none => (.ok notFound, a)

def startup (a : Api) : Api :=
  let s := a.settings
  a.log .info "Started"
    [("host", .str s.host), ("port", .int s.port),
     ("force_disconnect_delay_ms", .int s.delayMillis),
     ("env", .str s.environment)]

/-- The program ends: pending sweeps are cancelled. -/
def stop (a : Api) : Api :=
  let a := a.log .info "Shutting down reconnection harness" []
  { a with controller := a.controller.shutdown.2 }

/-- Where messages are exchanged: the path of the settings between slashes. -/
def mountPath (socketPath : String) : String :=
  let path := if socketPath.startsWith "/" then socketPath else "/" ++ socketPath
  if path.endsWith "/" then path else path ++ "/"

def isMounted (mount path : String) : Bool :=
  (if path.endsWith "/" then path else path ++ "/").startsWith mount

def unsupported : String :=
  "\"The client is using an unsupported version of the Socket.IO or Engine.IO protocols\""

/-- The answer of the mount to a request that names no protocol. -/
def mountResponse (r : Http.Request) : Http.Response :=
  let allowed := (r.header? "origin").map fun o => ("access-control-allow-origin", o)
  ⟨400, typeHeader "text/plain" :: allowed.toList, .text unsupported, none⟩

def serve (a : Api) (most : Nat) (r : Http.Request) : Except Fault Http.Response × Api :=
  if isMounted (mountPath a.settings.socketPath) r.path then (.ok (mountResponse r), a)
  else a.respond most r

/-- The application of settings: it can be built if the delay can. -/
def build (settings : Settings) (delay : Value) (time : Value) : Except Fault Api := do
  return { controller := { scheduler := { delay := ← Delay.ofValue delay } }, settings, time }

def ofSettings (settings : Settings) (time : Value) : Except Fault Api := do
  build settings (.float (← settings.delaySeconds)) time

end Api
end Linkcut
