import Homeflow.Capabilities
import Homeflow.Lib.OrderedDict
import Mathlib.Data.List.Basic

-- The offline shell of the installed application.
namespace Homeflow.Web

-- An address without its fragment.
structure Url where
  origin : String
  pathname : String
  search : String := ""
deriving DecidableEq

structure Request where
  method : String := "GET"
  url : Url
deriving DecidableEq

structure Response where
  ok : Bool
  body : String
deriving DecidableEq

def CACHE : String := "homeflow-shell-v9"

def SHELL : List String :=
  [".", "index.html", "app.css", "manifest.webmanifest", "js/app.js", "js/api.js", "js/dial.js",
    "js/dom.js", "js/live.js", "js/render.js", "js/strings.js", "icons/icon-192.png",
    "icons/icon-512.png"]

-- The client is served from the root of its origin, and so is sw.js.
def shellUrl (origin path : String) : Url :=
  ⟨origin, if path = "." then "/" else "/" ++ path, ""⟩

def Url.household (url : Url) : Bool :=
  "/v1".toList.isPrefixOf url.pathname.toList || url.pathname = "/healthz"

-- Whether the handler responds to a request, or leaves it to the browser.
def handles (origin : String) (request : Request) : Bool :=
  if request.method ≠ "GET" then false
  else if request.url.origin ≠ origin then false
  else !request.url.household

abbrev Cache := OrderedDict Url Response

inductive Phase where
  | installing
  | installed
  | activating
  | activated
  | redundant
deriving DecidableEq

-- What the answer to a request waits for.
inductive Stage where
  | network
  | cached
  | index
deriving DecidableEq

structure Fetch where
  request : Request
  stage : Stage := .network

inductive WorkerEffect where
  -- The network answers: the installation, or a request of the page.
  | gave (ticket : Option Nat) (url : Url) (response : Response)
  | failed (ticket : Nat)
  | passed (request : Request)
  -- None: nothing was found, which the page sees as a network error.
  | responded (ticket : Nat) (request : Request) (response : Option Response)
  -- A worker of another version has put an answer in its own cache.
  | left (url : Url) (response : Response)
deriving DecidableEq

structure ServiceWorker where
  origin : String
  phase : Phase := .installing
  caches : OrderedDict String Cache
  -- The caches that the activation has still to delete.
  stale : List String := []
  fetches : OrderedDict Nat Fetch := .empty
  -- The copies that are not put yet.
  copies : OrderedDict Nat (Url × Response) := .empty
  tickets : Nat := 0
  trace : List WorkerEffect := []

inductive WorkerLabel where
  -- addAll: an answer for each path of the shell, or the network fails.
  | shellAnswered (responses : List Response)
  | shellFailed
  | activate
  | deleted (name : String)
  | claimed
  -- The handler of the activation fails, or the browser ends it: the worker is active even so.
  | interrupted
  | fetch (request : Request)
  | networkAnswered (ticket : Nat) (response : Response)
  | networkFailed (ticket : Nat)
  | put (ticket : Nat)
  -- A copy that cannot be put.
  | putFailed (ticket : Nat)
  | matched (ticket : Nat)
  -- The browser stops a worker that does nothing it waits for.
  | stopped
  -- A worker of another version puts an answer, deletes a cache, or takes the place of this one.
  | beside (name : String) (url : Url) (response : Response)
  | removed (name : String)
  | replaced

namespace ServiceWorker

def emit (worker : ServiceWorker) (effects : List WorkerEffect) : ServiceWorker :=
  { worker with trace := worker.trace ++ effects }

-- caches.open and cache.put.
def putIn (worker : ServiceWorker) (name : String) (url : Url) (response : Response) :
    ServiceWorker :=
  let cache := (worker.caches.get? name).getD .empty
  { worker with caches := worker.caches.set name (cache.set url response) }

-- caches.match: the caches in the order in which they were made.
def lookUp (worker : ServiceWorker) (url : Url) : Option Response :=
  worker.caches.entries.findSome? fun entry => entry.2.get? url

def addAll (worker : ServiceWorker) (responses : List Response) : ServiceWorker :=
  ((SHELL.map (shellUrl worker.origin)).zip responses).foldl
    (fun worker entry => worker.putIn CACHE entry.1 entry.2) worker

def respond (worker : ServiceWorker) (ticket : Nat) (request : Request)
    (response : Option Response) : ServiceWorker :=
  { worker with fetches := worker.fetches.erase ticket }.emit [.responded ticket request response]

def networkAnswered (worker : ServiceWorker) (ticket : Nat) (request : Request)
    (response : Response) : ServiceWorker :=
  let copies := if response.ok then worker.copies.set ticket (request.url, response)
    else worker.copies
  ({ worker with copies }.emit [.gave (some ticket) request.url response]).respond ticket request
    (some response)

def matched (worker : ServiceWorker) (ticket : Nat) (fetch : Fetch) : Option ServiceWorker :=
  match fetch.stage with
  | .network => none
  | .cached =>
      match worker.lookUp fetch.request.url with
      | some hit => some (worker.respond ticket fetch.request (some hit))
      | none => some { worker with
          fetches := worker.fetches.set ticket { fetch with stage := .index } }
  | .index => some (worker.respond ticket fetch.request
      (worker.lookUp (shellUrl worker.origin "index.html")))

def step (worker : ServiceWorker) : WorkerLabel → Option ServiceWorker
  | .shellAnswered responses =>
      if worker.phase ≠ .installing ∨ responses.length ≠ SHELL.length then none
      else
        let answered := worker.emit (((SHELL.map (shellUrl worker.origin)).zip responses).map
          fun entry => .gave none entry.1 entry.2)
        if responses.all Response.ok then
          some { answered.addAll responses with phase := .installed }
        else some { answered with phase := .redundant }
  | .shellFailed =>
      if worker.phase ≠ .installing then none else some { worker with phase := .redundant }
  | .activate =>
      if worker.phase ≠ .installed then none
      else some { worker with
        phase := .activating
        stale := worker.caches.keys.filter fun name => name ≠ CACHE }
  | .deleted name =>
      if name ∉ worker.stale then none
      else some { worker with
        caches := worker.caches.erase name
        stale := worker.stale.filter fun other => other ≠ name }
  | .claimed =>
      if worker.phase ≠ .activating ∨ worker.stale ≠ [] then none
      else some { worker with phase := .activated }
  | .interrupted =>
      if worker.phase ≠ .activating then none else some { worker with phase := .activated }
  | .fetch request =>
      if worker.phase ≠ .activated then none
      else if ¬handles worker.origin request then some (worker.emit [.passed request])
      else some { worker with
        fetches := worker.fetches.set worker.tickets { request }
        tickets := worker.tickets + 1 }
  | .networkAnswered ticket response =>
      (worker.fetches.get? ticket).bind fun fetch =>
        if fetch.stage ≠ .network then none
        else some (worker.networkAnswered ticket fetch.request response)
  | .networkFailed ticket =>
      (worker.fetches.get? ticket).bind fun fetch =>
        if fetch.stage ≠ .network then none
        else some ({ worker with
          fetches := worker.fetches.set ticket { fetch with stage := .cached }
          }.emit [.failed ticket])
  | .put ticket =>
      (worker.copies.get? ticket).map fun copy =>
        { worker with copies := worker.copies.erase ticket }.putIn CACHE copy.1 copy.2
  | .putFailed ticket =>
      (worker.copies.get? ticket).map fun _ => { worker with copies := worker.copies.erase ticket }
  | .matched ticket => (worker.fetches.get? ticket).bind (worker.matched ticket)
  | .stopped =>
      if worker.phase ≠ .activated then none
      else some { worker with fetches := .empty, copies := .empty }
  | .beside name url response => some ((worker.putIn name url response).emit [.left url response])
  | .removed name => some { worker with caches := worker.caches.erase name }
  | .replaced =>
      if worker.phase ≠ .activated then none else some { worker with phase := .redundant }

end ServiceWorker

-- A version of the worker beside the caches that earlier ones have left.
def installed (origin : String) (caches : OrderedDict String Cache) : ServiceWorker :=
  { origin, caches }

-- The requests of api.js.
inductive ApiCall where
  | me
  | devices
  | activity (limit : String)
  | submitCommand (deviceId : Uuid)
  | schedules (deviceId : Uuid)
  | createSchedule (deviceId : Uuid)
  | cancelSchedule (scheduleId : Uuid)
  | websocketTicket

-- With encodeURIComponent for the identifiers.
def ApiCall.request (segment : Uuid → String) (origin : String) : ApiCall → Request
  | .me => { url := ⟨origin, "/v1/me", ""⟩ }
  | .devices => { url := ⟨origin, "/v1/devices", ""⟩ }
  | .activity limit => { url := ⟨origin, "/v1/activity", "?limit=" ++ limit⟩ }
  | .submitCommand deviceId =>
      { method := "POST", url := ⟨origin, "/v1/devices/" ++ segment deviceId ++ "/commands", ""⟩ }
  | .schedules deviceId =>
      { url := ⟨origin, "/v1/devices/" ++ segment deviceId ++ "/schedules", ""⟩ }
  | .createSchedule deviceId =>
      { method := "POST", url := ⟨origin, "/v1/devices/" ++ segment deviceId ++ "/schedules", ""⟩ }
  | .cancelSchedule scheduleId =>
      { method := "DELETE", url := ⟨origin, "/v1/schedules/" ++ segment scheduleId, ""⟩ }
  | .websocketTicket => { method := "POST", url := ⟨origin, "/v1/auth/ws-ticket", ""⟩ }

end Homeflow.Web
