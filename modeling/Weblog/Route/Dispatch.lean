import Weblog.Route.Table

/-!
# Weblog.Route.Dispatch

From a request to the response of its handler.

* `Entry.run`: gathers the arguments, calls the handler and makes the response. An error of the
  domain is answered with its payload.
* `Resource.entry?`: the entry of a path that serves a method.
-/

namespace Weblog

def Entry.call (e : Entry) (user : Option SessionUser) (r : Http.Request) (args : Fields) : Call :=
  ⟨args, if e.spec.takesRequest then some ⟨r.method, r.uri, r.headers, user⟩ else none⟩

/-- An error of the domain as a reply; every other error stays one. -/
def Reply.ofOutcome : Except AppError Reply → Except AppError Reply
  | .error (.api e) => .ok (.fields e.payload)
  | outcome => outcome

namespace Entry

/-- The response of an entry, or the error on the way to it. -/
def run (e : Entry) (user : Option SessionUser) (render : Renderer) (path : List (String × String))
    (r : Http.Request) : Fallible AppError Http.Response := do
  let args ← e.spec.arguments path r
  let outcome ← Fallible.lift (e.handler (e.call user r args)).run
  let reply ← Fallible.ofExcept (Reply.ofOutcome outcome)
  reply.respond user render

def dispatch (e : Entry) (user : Option SessionUser) (render : Renderer)
    (path : List (String × String)) (r : Http.Request) : Action Http.Response := do
  match ← (e.run user render path r).run with
  | .ok response => return response
  | .error e => e.respond

end Entry

namespace Resource

/-- The entry that serves a method; HEAD is served like GET. -/
def entry? (r : Resource) : Http.Method → Option Entry
  | .get | .head => r.get
  | .post => r.post
  | .other _ => none

end Resource
end Weblog
