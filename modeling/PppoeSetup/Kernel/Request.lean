import PppoeSetup.Errno
import PppoeSetup.SetupError
import PppoeSetup.Wire.LinkAddress
import PppoeSetup.Wire.SessionAddress
import PppoeSetup.Wire.TimeInterval

/-!
# Requests to the kernel

Everything that a setup asks of its surroundings: the system calls on its sockets and the two
questions that it has for the reactor that watches them. Each request has a type of answers.
-/

namespace PppoeSetup.Kernel

open Wire

/-- A file descriptor. -/
abbrev Descriptor := Nat

inductive SocketOption
  | broadcast
  /-- Bounds how long a connect may wait. -/
  | sendTimeout (limit : TimeInterval)
deriving DecidableEq

inductive Direction
  | reading
  | writing
deriving DecidableEq

inductive Request
  | openSocket (kind : SocketKind)
  | interfaceIndex (fd : Descriptor) (name : Vector UInt8 16)
  | hardwareAddress (fd : Descriptor) (name : Vector UInt8 16)
  | channelIndex (fd : Descriptor)
  | setOption (fd : Descriptor) (option : SocketOption)
  | bind (fd : Descriptor) (address : LinkAddress)
  | connect (fd : Descriptor) (address : SessionAddress)
  | statusFlags (fd : Descriptor)
  | setStatusFlags (fd : Descriptor) (flags : UInt32)
  | send (fd : Descriptor) (frame : List UInt8)
  | receive (fd : Descriptor) (capacity : Nat)
  | close (fd : Descriptor)
  /-- The reactor is to watch the descriptor from now on. -/
  | register (fd : Descriptor)
  /-- How many times the reactor will report the descriptor ready before it falls silent. -/
  | notifications (fd : Descriptor) (direction : Direction)
deriving DecidableEq

/-- A frame as it was received, with the bytes of its sender's link-layer address. -/
structure Datagram where
  payload : List UInt8
  sender : Vector UInt8 20
deriving DecidableEq

namespace Request

@[reducible] def Answer : Request → Type
  | openSocket _ => Except Errno Descriptor
  | interfaceIndex .. => Except Errno UInt32
  | hardwareAddress .. => Except Errno (Vector UInt8 14)
  | channelIndex _ => Except Errno Int32
  | setOption .. => Except Errno Unit
  | bind .. => Except Errno Unit
  | connect .. => Except Errno Unit
  | statusFlags _ => Except Errno UInt32
  | setStatusFlags .. => Except Errno Unit
  | send .. => Except Errno Nat
  | receive .. => Except Errno Datagram
  | close _ => Except Errno Unit
  | register _ => Except Errno Unit
  | notifications .. => Nat

/-- The descriptor that a request is about; opening a socket is about none yet. -/
def descriptor? : Request → Option Descriptor
  | openSocket _ => none
  | interfaceIndex fd _ | hardwareAddress fd _ | channelIndex fd | setOption fd _ | bind fd _
  | connect fd _ | statusFlags fd | setStatusFlags fd _ | send fd _ | receive fd _ | close fd
  | register fd | notifications fd _ => some fd

/-- The status flag of a descriptor whose operations never wait. -/
def nonblockingFlag : UInt32 := 0x800

end Request

end PppoeSetup.Kernel
