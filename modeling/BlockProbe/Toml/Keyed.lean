/-
Association lists.

`find?` returns the value under a key. `put` sets it in a list kept in ascending key order, in place when the key is
there and at its sorted position when it is not. Keys compare by code point, which is the order of their UTF-8 bytes, so
two lists built with `put` are equal as soon as they hold the same values under the same keys. `set` and `move` keep the
order in which the keys came instead: `set` leaves a key where it is, `move` takes it to the end.
-/

namespace BlockProbe.Toml.Keyed

variable {α : Type}

def find? (key : String) : List (String × α) → Option α
  | [] => none
  | (k, v) :: rest => if k = key then some v else find? key rest

def put (key : String) (value : α) : List (String × α) → List (String × α)
  | [] => [(key, value)]
  | (k, v) :: rest =>
    if key = k then (key, value) :: rest
    else if key < k then (key, value) :: (k, v) :: rest
    else (k, v) :: put key value rest

/-- set the value under a key, a new key coming last -/
def set (key : String) (value : α) : List (String × α) → List (String × α)
  | [] => [(key, value)]
  | (k, v) :: rest => if key = k then (key, value) :: rest else (k, v) :: set key value rest

/-- set the value under a key and let the key come last -/
def move (key : String) (value : α) (entries : List (String × α)) : List (String × α) :=
  entries.filter (fun entry => entry.1 != key) ++ [(key, value)]

end BlockProbe.Toml.Keyed
