import Pressroom.Settings.Basic

/-!
Settings of the processes that serve requests.
-/
namespace Pressroom

/-- How requests are served: where, by how many processes, and for how long. -/
structure Workers where
  bind : String
  count : Int
  logLevel : String

namespace Workers

/-- The most processes that are started unless a number is asked for. -/
def usualMost : Int := 4

/-- Reads the settings on a machine with this many processors. The store takes one write at a time,
so few processes are enough. -/
def read (env : Environment) (processors : Int) : Except WholeFault Workers :=
  (env.whole "GUNICORN_WORKERS" (min (processors * 2 + 1) usualMost)).map fun count =>
    { bind := "0.0.0.0:" ++ env.getD "PORT" "3000"
      count
      logLevel := lowerCase (env.getD "LOG_LEVEL" "info") }

/-- Every value by name. -/
def values (w : Workers) : List (String × Json) :=
  [("bind", .string w.bind),
    ("backlog", .whole 1024),
    ("workers", .whole w.count),
    ("worker_class", .string "sync"),
    ("max_requests", .whole 1000),
    ("max_requests_jitter", .whole 50),
    ("timeout", .whole 30),
    ("keepalive", .whole 2),
    ("loglevel", .string w.logLevel)]

end Workers

end Pressroom
