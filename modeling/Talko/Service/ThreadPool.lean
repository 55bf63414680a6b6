import Talko.Library.Run

/-!
# The thread pool

`WhispThreadPool` with its workers, the calls of `enqueue` from any threads, the destructor
and `resize`. What a thread does between taking `queue_mutex` and releasing it is one step.
Steps of the workers and of other callers can come between any two steps of the destructor
or of `resize`.
-/

set_option autoImplicit false

namespace Talko.Service

/-- Where a worker stands: before it takes the mutex (at the top of its loop or woken inside
`wait`), blocked in `wait`, at its task, or behind the `return`. -/
inductive WorkerPlace (Task : Type) where
  | locking
  | waiting
  | running (task : Task)
  | exited
  deriving DecidableEq, Repr

/-- An element of `workers` with the thread it stands for. -/
structure Worker (Task : Type) where
  place : WorkerPlace Task
  joinable : Bool
  deriving DecidableEq, Repr

namespace Worker

variable {Task : Type}

def start : Worker Task where
  place := .locking
  joinable := true

def moveTo (worker : Worker Task) (place : WorkerPlace Task) : Worker Task :=
  { worker with place := place }

def isWaiting (worker : Worker Task) : Bool :=
  match worker.place with
  | .waiting => true
  | _ => false

def isExited (worker : Worker Task) : Bool :=
  match worker.place with
  | .exited => true
  | _ => false

def task? (worker : Worker Task) : Option Task :=
  match worker.place with
  | .running task => some task
  | _ => none

/-- What a notification does to a thread. -/
def notified (worker : Worker Task) : Worker Task :=
  if worker.isWaiting then worker.moveTo .locking else worker

end Worker

/-- A pool; `notifying` counts the calls of `enqueue` between their two halves. What has been
accepted, popped and finished so far is kept beside the queue. -/
structure ThreadPool (Task : Type) where
  workers : List (Worker Task)
  tasks : List Task
  stop : Bool
  notifying : Nat
  accepted : List Task
  popped : List Task
  finished : List Task
  deriving DecidableEq, Repr

inductive PoolStep (Task : Type) where
  | worker (index : Nat)
  | spuriousWakeup (index : Nat)
  | enqueue (task : Task)
  | notifyOne (choice : Nat)
  deriving DecidableEq, Repr

namespace ThreadPool

variable {Task : Type}

def new (numThreads : Nat) : ThreadPool Task where
  workers := List.replicate numThreads .start
  tasks := []
  stop := false
  notifying := 0
  accepted := []
  popped := []
  finished := []

def changeWorker (pool : ThreadPool Task) (index : Nat) (change : Worker Task → Worker Task) :
    ThreadPool Task :=
  { pool with workers := pool.workers.modify index change }

def moveWorker (pool : ThreadPool Task) (index : Nat) (place : WorkerPlace Task) :
    ThreadPool Task :=
  pool.changeWorker index (·.moveTo place)

/-- The part of the loop under the mutex: the predicate of `wait`, the test for the end, and
the `pop`. -/
def lockedPart (pool : ThreadPool Task) (index : Nat) : ThreadPool Task :=
  if pool.stop || !pool.tasks.isEmpty then
    if pool.stop && pool.tasks.isEmpty then pool.moveWorker index .exited
    else
      match pool.tasks with
      | [] => pool
      | task :: rest =>
          { pool.moveWorker index (.running task) with
            tasks := rest
            popped := pool.popped ++ [task] }
  else pool.moveWorker index .waiting

/-- The next step of a worker. One that waits or has exited makes none. -/
def workerStep (pool : ThreadPool Task) (index : Nat) : ThreadPool Task :=
  match pool.workers[index]? with
  | none => pool
  | some worker =>
      match worker.place with
      | .locking => pool.lockedPart index
      | .running task =>
          { pool.moveWorker index .locking with finished := pool.finished ++ [task] }
      | .waiting | .exited => pool

def wake (pool : ThreadPool Task) (index : Nat) : ThreadPool Task :=
  pool.changeWorker index Worker.notified

/-- The part of `enqueue` under the mutex; once the pool has stopped it throws. -/
def push (pool : ThreadPool Task) (task : Task) : ThreadPool Task :=
  if pool.stop then pool
  else
    { pool with
      tasks := pool.tasks ++ [task]
      accepted := pool.accepted ++ [task]
      notifying := pool.notifying + 1 }

/-- The thread that `notify_one` wakes: the one of choice if it waits, else another one. -/
def chosen (pool : ThreadPool Task) (choice : Nat) : Nat :=
  if (pool.workers[choice]?.map Worker.isWaiting).getD false then choice
  else pool.workers.findIdx Worker.isWaiting

/-- The end of a call of `enqueue`. -/
def notifyOne (pool : ThreadPool Task) (choice : Nat) : ThreadPool Task :=
  if pool.notifying = 0 then pool
  else { pool.wake (pool.chosen choice) with notifying := pool.notifying - 1 }

def notifyAll (pool : ThreadPool Task) : ThreadPool Task :=
  { pool with workers := pool.workers.map Worker.notified }

def setStop (pool : ThreadPool Task) (stop : Bool) : ThreadPool Task :=
  { pool with stop := stop }

def step (pool : ThreadPool Task) : PoolStep Task → ThreadPool Task
  | .worker index => pool.workerStep index
  | .spuriousWakeup index => pool.wake index
  | .enqueue task => pool.push task
  | .notifyOne choice => pool.notifyOne choice

/-- `if (joinable()) join()`; none while the thread has not exited. -/
def join (pool : ThreadPool Task) (index : Nat) : Option (ThreadPool Task) :=
  match pool.workers[index]? with
  | none => some pool
  | some worker =>
      if worker.joinable then
        if worker.isExited then
          some (pool.changeWorker index fun joined => { joined with joinable := false })
        else none
      else some pool

end ThreadPool

/-- A step of the pool, or of the thread that destroys or resizes it. -/
inductive OwnerStep (Task : Type) where
  | pool (step : PoolStep Task)
  | advance
  deriving DecidableEq, Repr

/-!
## The destructor
-/

inductive DestructorPlace where
  | outside
  | stopped
  | joining (next : Nat)
  | returned
  deriving DecidableEq, Repr

structure DestroyedPool (Task : Type) where
  pool : ThreadPool Task
  place : DestructorPlace
  deriving DecidableEq, Repr

namespace DestroyedPool

variable {Task : Type}

def new (numThreads : Nat) : DestroyedPool Task where
  pool := .new numThreads
  place := .outside

/-- The next step of the destructor; the first one is its call. -/
def advance (s : DestroyedPool Task) : DestroyedPool Task :=
  match s.place with
  | .outside => ⟨s.pool.setStop true, .stopped⟩
  | .stopped => ⟨s.pool.notifyAll, .joining 0⟩
  | .joining next =>
      if next < s.pool.workers.length then
        match s.pool.join next with
        | some joined => ⟨joined, .joining (next + 1)⟩
        | none => s
      else ⟨s.pool, .returned⟩
  | .returned => s

def step (s : DestroyedPool Task) : OwnerStep Task → DestroyedPool Task
  | .pool action => { s with pool := s.pool.step action }
  | .advance => s.advance

end DestroyedPool

/-!
## `resize`
-/

/-- Where a call of `resize` stands. `terminated` is behind the destructor of a thread that is
still joinable. -/
inductive ResizePlace where
  | called
  | stopped
  | joining (next : Nat)
  | resuming
  | emplacing (next : Nat)
  | returned
  | terminated
  deriving DecidableEq, Repr

structure ResizedPool (Task : Type) where
  pool : ThreadPool Task
  numThreads : Nat
  place : ResizePlace
  deriving DecidableEq, Repr

namespace ResizedPool

variable {Task : Type}

def call (pool : ThreadPool Task) (numThreads : Nat) : ResizedPool Task where
  pool := pool
  numThreads := numThreads
  place := .called

def moveTo (s : ResizedPool Task) (place : ResizePlace) : ResizedPool Task :=
  { s with place := place }

/-- `workers.resize(num_threads)` on a longer vector. -/
def truncate (s : ResizedPool Task) : ResizedPool Task :=
  if (s.pool.workers.drop s.numThreads).any (·.joinable) then s.moveTo .terminated
  else
    { s with
      pool := { s.pool with workers := s.pool.workers.take s.numThreads }
      place := .resuming }

def advance (s : ResizedPool Task) : ResizedPool Task :=
  match s.place with
  | .called =>
      if s.numThreads < s.pool.workers.length then
        { s with pool := s.pool.setStop true, place := .stopped }
      else if s.numThreads > s.pool.workers.length then
        s.moveTo (.emplacing s.pool.workers.length)
      else s.moveTo .returned
  | .stopped => { s with pool := s.pool.notifyAll, place := .joining 0 }
  | .joining next =>
      if next < s.pool.workers.length - s.numThreads then
        match s.pool.join next with
        | some joined => { s with pool := joined, place := .joining (next + 1) }
        | none => s
      else s.truncate
  | .resuming => { s with pool := s.pool.setStop false, place := .returned }
  | .emplacing next =>
      if next < s.numThreads then
        { s with
          pool := { s.pool with workers := s.pool.workers ++ [.start] }
          place := .emplacing (next + 1) }
      else s.moveTo .returned
  | .returned | .terminated => s

/-- Once the process has been terminated nothing moves. -/
def step (s : ResizedPool Task) : OwnerStep Task → ResizedPool Task
  | .pool action =>
      if s.place = .terminated then s else { s with pool := s.pool.step action }
  | .advance => s.advance

end ResizedPool

end Talko.Service
