/-
  File:      OpenerPolicy/Http/Router.lean
  Subject:   ROUTES, AND WHICH OF THEM ANSWERS A REQUEST.

  Routes are tried in order. The first one that has the path and the method answers. Otherwise the
  first one that has the path refuses the method; otherwise a path that differs by its slash at the
  end, if there is such a route, is pointed to; otherwise nothing is found. A mount point hands every
  path below it to routes of its own. A number in a path that is too long to be read is a fault,
  as soon as the pattern that asks for it is tried.

  * `Endpoint`, `Endpoint.answer` -- what a handler does, and its response or fault;
  * `Route`, `Site` -- routes and mount points; `Route.configs` -- the configs of a handler, one
    attachment after the other;
  * `Place`, `Place.here` -- a path and how far mount points have led into it;
  * `resolve` -- how a request is answered;
  * `configsFor` -- the configs of the handler that will answer, found by a pass of its own;
  * `here_of_no_root` -- a path that no mount point has led into.
-/
import OpenerPolicy.Http.Address
import OpenerPolicy.Http.Pattern
import OpenerPolicy.Http.Response
import OpenerPolicy.Pipeline.Run
import OpenerPolicy.Text.Case

namespace OpenerPolicy.Http

/-! ## 1. Handlers -/

/-- What a handler does. -/
inductive Endpoint where
  | respond (status : Int) (body : List UInt8) (mediaType : Option String)
      (lines : List (String × String))
  | raise (f : Fault)
  /-- Refuses with a status, and with a detail or the standard phrase. -/
  | refuse (status : Int) (detail : Option String)

/-- **The response of a handler, or its fault.** -/
def Endpoint.answer : Endpoint → Except Fault Response
  | .respond status body mediaType lines => do
    let r ← match mediaType with
      | none => .ok (Response.plain status body)
      | some mediaType => Response.typed status body mediaType
    lines.foldlM (fun r line => r.append line.1 line.2) r
  | .raise f => .error f
  | .refuse status detail => .ok (Response.refusal status detail)

/-! ## 2. Routes -/

/-- A route: its pattern, its methods, its handler, and the configs of the handler, in as many lists
    as they were attached in, the first one first. -/
structure Route where
  pattern : Pattern
  methods : List String
  attachments : List (List (Component Response))
  endpoint : Endpoint

namespace Route

/-- The methods that are answered: one that gets also answers for heads alone. None at all stand
    for every method. -/
def allowed (r : Route) : List String :=
  let methods := (r.methods.map Text.uppercase).eraseDups
  if methods.contains "GET" && !methods.contains "HEAD" then methods ++ ["HEAD"] else methods

def hasMethod (r : Route) (method : String) : Bool :=
  r.allowed.isEmpty || r.allowed.contains method

/-- The configs of a handler to which further ones are attached. -/
def attach (attached more : List (Component Response)) : List (Component Response) :=
  attached ++ more

/-- **The configs of the handler**, once all of them are attached. -/
def configs (r : Route) : List (Component Response) := r.attachments.foldl attach []

end Route

/-- A route, or a mount point with routes of its own. -/
inductive Site where
  | route (r : Route)
  | mount (pattern : Pattern) (inner : List Site)

/-- The pattern of the paths that a site has. -/
def Site.pattern : Site → Pattern
  | .route r => r.pattern
  | .mount pattern _ => pattern

/-! ## 3. Paths -/

/-- A path, and the part of it that mount points have led into. -/
structure Place where
  whole : List Char
  root : List Char
  deriving DecidableEq, Repr

namespace Place

/-- The place before any mount point. -/
def start (path : String) : Place := ⟨path.toList, []⟩

/-- **The path as the routes at this place see it**: what follows the root, if a slash follows it;
    the whole path otherwise. -/
def here (p : Place) : List Char :=
  if p.root.isPrefixOf p.whole then
    match p.whole.drop p.root.length with
    | [] => []
    | c :: rest => if c = '/' then c :: rest else p.whole
  else p.whole

/-- The place that a mount point leads to: the root ends where the capture of its last hole begins,
    a slash before that. -/
def enter (p : Place) (captures : List Capture) : Place :=
  let remaining := 1 + ((captures.getLast?.map (·.text.length)).getD 0)
  { p with root := p.root ++ p.here.take (p.here.length - remaining) }

/-- The path that differs by its slashes at the end: without any, or with one added. None for the
    path that is a single slash. -/
def other? (p : Place) : Option Place :=
  if p.here = ['/'] then none
  else if p.here.getLast? = some '/' then some { p with whole := withoutEndSlashes p.whole }
  else some { p with whole := p.whole ++ ['/'] }

end Place

/-! ## 4. Resolution -/

/-- How a request is answered. -/
inductive Resolution where
  | found (r : Route)
  | methodRefused (r : Route)
  | redirected (path : String)
  /-- By the routes of a mount point. -/
  | mounted (answer : Resolution)
  | nothing

/-- Whether a site has a path, for some method. -/
def Site.hasPath (p : Place) (s : Site) : Except Fault Bool :=
  (s.pattern.read p.here).map Option.isSome

/-- Whether some site has a path; later ones are not tried. -/
def anyHasPath (p : Place) : List Site → Except Fault Bool
  | [] => .ok false
  | s :: rest => do if ← s.hasPath p then return true else anyHasPath p rest

/-- The answer where no route has the path. -/
def unmatched (sites : List Site) (p : Place) : Except Fault Resolution :=
  match p.other? with
  | none => .ok .nothing
  | some other => do
    if ← anyHasPath other sites then return .redirected (String.ofList other.whole)
    else return .nothing

mutual

/-- The answer of a single route or mount point: none if the path is not there, and a refusal if
    only the method is not. -/
def Site.resolve? (method : String) (p : Place) : Site → Except Fault (Option Resolution)
  | .route r => do
    match ← r.pattern.read p.here with
    | none => return none
    | some _ => return some (if r.hasMethod method then .found r else .methodRefused r)
  | .mount pattern inner => do
    match ← pattern.read p.here with
    | none => return none
    | some captures =>
      let p := p.enter captures
      match ← scan method p none inner with
      | some answer => return some (.mounted answer)
      | none => return some (.mounted (← unmatched inner p))

/-- The answer of routes tried in order, where `refusal` was the first refusal before them. The
    answer of a mount point is final, whatever it is. -/
def scan (method : String) (p : Place) (refusal : Option Route) :
    List Site → Except Fault (Option Resolution)
  | [] => .ok (refusal.map .methodRefused)
  | s :: rest => do
    match ← s.resolve? method p with
    | none => scan method p refusal rest
    | some (.methodRefused r) => scan method p (refusal.or (some r)) rest
    | some answer => return some answer

end

/-- **How a request is answered.** -/
def resolve (sites : List Site) (method path : String) : Except Fault Resolution := do
  match ← scan method (.start path) none sites with
  | some answer => return answer
  | none => unmatched sites (.start path)

/-- **The configs of the handler that will answer.** A mount point has none, and neither has an
    answer that comes from no handler. -/
def configsFor (method path : String) : List Site → Except Fault (List (Component Response))
  | [] => .ok []
  | .route r :: rest => do
    if (← r.pattern.read path.toList).isSome && r.hasMethod method then return r.configs
    else configsFor method path rest
  | .mount pattern _ :: rest => do
    if (← pattern.read path.toList).isSome then return [] else configsFor method path rest

/-! ## 5. Small facts -/

/-- A path that no mount point has led into is seen as it is. -/
theorem here_of_no_root (whole : List Char) : Place.here ⟨whole, []⟩ = whole := by
  cases whole with
  | nil => rfl
  | cons c rest => simp [Place.here]

end OpenerPolicy.Http
