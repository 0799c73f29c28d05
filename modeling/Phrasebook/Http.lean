import Phrasebook.Setting
import Phrasebook.Text.Utf8

/-!
# Requests for pages

A page is asked for in a session. The request is refused, or the server answers with a status code,
a reason and bytes. A code from 400 on and below 600 is a failure.
-/

namespace Phrasebook.Http

inductive Answer
  | refused (message : Text)
  | answered (code : Nat) (reason : Text) (content : Bytes)

/-- What is done with a session. Redirects are always followed. -/
inductive Call
  | get (url timeout : Setting)
  | close

/-- Why a request brings no page. -/
inductive Fault
  | refused (message : Text)
  | status (code : Nat) (reason url : Text)

/-- The bytes of the page at an address. -/
def Answer.content (url : Text) : Answer → Except Fault Bytes
  | refused message => .error (.refused message)
  | answered code reason content =>
    if 400 ≤ code ∧ code < 600 then .error (.status code reason url) else .ok content

def Fault.message : Fault → Text
  | refused message => message
  | status code reason url =>
    let side := if code < 500 then " Client Error: ".toList else " Server Error: ".toList
    Text.decimal code ++ side ++ reason ++ " for url: ".toList ++ url

end Phrasebook.Http
