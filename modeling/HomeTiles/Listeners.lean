import HomeTiles.Value

/-!
# Listeners: who hears of a change

A listener is told the new and the old document at each change of a store that
it is subscribed to. Some listeners do more than hear: they fail, scribble on
what they were given, leave, bring others along, or change a store themselves.
The store that a listener acts on is its home, whichever store calls it. What a
listener does is written out call after call in its `Behavior`, which may come of
anything, the documents that it hears of among them: in a run that ends every
listener is called so many times, and does so much each time. Listeners and stores
go by their numbers.
-/

namespace HomeTiles

/-- What a listener does at its calls, the next one first. -/
inductive Behavior where
  /-- Nothing, at the next call and at all after it. -/
  | hear
  /-- Fails, at the next call and at all after it. -/
  | fail
  /-- Changes the documents that it is given, at the next call and at all after it. -/
  | scribble
  /-- Ends its subscription to its home, at the next call and at all after it. -/
  | leave
  /-- The call is over; the rest is done at later ones. -/
  | wait (rest : Behavior)
  /-- The call fails and is over; the rest is done at later ones. -/
  | failOnce (rest : Behavior)
  /-- Ends its subscription to its home and goes on. -/
  | leaveThen (rest : Behavior)
  /-- Makes a package a favorite or not, in its home, and goes on; the call fails if that does. -/
  | favorite (package : String) (rest : Behavior)
  /-- Subscribes a new listener to its home and goes on. -/
  | recruit (name : String) (behavior rest : Behavior)
  deriving DecidableEq, Repr

namespace Behavior

/-- What is left after the next call. -/
def later : Behavior → Behavior
  | .hear => .hear
  | .fail => .fail
  | .scribble => .scribble
  | .leave => .leave
  | .wait rest => rest
  | .failOnce rest => rest
  | .leaveThen rest => rest.later
  | .favorite _ rest => rest.later
  | .recruit _ _ rest => rest.later

/-- How many favorites are made at all calls, by new listeners too. -/
def favorites : Behavior → Nat
  | .wait rest => rest.favorites
  | .failOnce rest => rest.favorites
  | .leaveThen rest => rest.favorites
  | .favorite _ rest => rest.favorites + 1
  | .recruit _ behavior rest => behavior.favorites + rest.favorites
  | _ => 0

end Behavior

/-- A listener: what it is called in reports, what it does from now on, and its home. -/
structure Listener where
  name : String
  behavior : Behavior
  home : Nat := 0
  deriving DecidableEq, Repr

/-- What subscribing gives back, to end the subscription with: it remembers the listener and the store. -/
structure Subscription where
  listener : Nat
  store : Nat
  deriving DecidableEq, Repr

structure Event where
  listener : String
  new : Fields
  old : Fields
  deriving DecidableEq, Repr

/-- How many favorites listeners will make, each at all its calls. -/
def favoritesOfAll : List Listener → Nat
  | [] => 0
  | listener :: rest => listener.behavior.favorites + favoritesOfAll rest

/-- Whether a listener will change its home, at the next call or a later one. -/
def Listener.isPending (listener : Listener) : Bool := listener.behavior.favorites != 0

/-- The listeners after a call of one of them. -/
def afterCall (listeners : List Listener) (number : Nat) : List Listener :=
  listeners.modify number fun listener => { listener with behavior := listener.behavior.later }

end HomeTiles
