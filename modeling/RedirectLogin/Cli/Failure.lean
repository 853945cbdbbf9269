import RedirectLogin.Api.Error
import RedirectLogin.Store.Basic
import RedirectLogin.Store.ConfigFile

/-!
# Failures of a command

What the program says on its error output when a command fails: one message, and below it what
caused it, from the outside in, numbered if there are several causes.
-/

set_option autoImplicit false

namespace RedirectLogin.Cli

/-- Why a command failed. -/
structure Failure where
  message : String
  causes : List String
  deriving DecidableEq, Repr

namespace Failure

/-- A failure without a cause worth telling. -/
def plain (message : String) : Failure :=
  ⟨message, []⟩

/-- Put a message in front, which makes the failure so far its cause. -/
def within (f : Failure) (message : String) : Failure :=
  ⟨message, f.message :: f.causes⟩

/-- A text whose further lines are moved right like its first. -/
def indented (first rest text : String) : String :=
  first ++ ("\n" ++ rest).intercalate ((text.splitOn "\n"))

/-- A number in five columns. -/
def column (n : Nat) : String :=
  let ds := toString n
  String.ofList (List.replicate (5 - ds.length) ' ') ++ ds

/-- The numbered lines of causes, from number `n` on. -/
def numbered : Nat → List String → List String
  | _, [] => []
  | n, cause :: causes => indented (column n ++ ": ") "       " cause :: numbered (n + 1) causes

def causesText : List String → String
  | [] => ""
  | [cause] => "\n\nCaused by:\n" ++ indented "    " "    " cause
  | causes => "\n\nCaused by:\n" ++ "\n".intercalate (numbered 0 causes)

/-- What is written to the error output. -/
def report (f : Failure) : String :=
  "Error: " ++ f.message ++ causesText f.causes ++ "\n"

/-- A session error; where only a new login helps, the message says so. -/
def ofSessionError (e : SessionError) : Failure :=
  if e.requiresLogin then plain (e.message ++ ". Run `authlink login` to sign in again")
  else plain e.message

def ofApiError : ApiError → Failure
  | .session e => ofSessionError e
  | .network e => ⟨(ApiError.network e).message, e.message :: e.causes⟩
  | e => plain e.message

def ofConfigError (e : ConfigError) : Failure :=
  (plain e.message).within "Failed to load config"

def ofStoreError (e : StoreError) : Failure :=
  (plain e.message).within "Failed to open token store"

end Failure

end RedirectLogin.Cli
