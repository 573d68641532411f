import PppoeSetup.Kernel.Request

/-!
# System calls

How a request looks at the border to the kernel: the name of the call, its arguments in their
order, and the number that it returns. Requests to the reactor are no system calls.
-/

namespace PppoeSetup

namespace SocketKind

/-- The address family: the internet's, that of PPP over something, or that of packets. -/
def family : SocketKind → UInt16
  | control => 2
  | session => Wire.SessionAddress.family
  | discovery => Wire.LinkAddress.family

/-- Questions go out as datagrams, a session is a stream, discovery sees raw frames. -/
def transfer : SocketKind → UInt32
  | control => 2
  | session => 1
  | discovery => 3

/-- Added to the transfer: the descriptor is not passed on to other programs. -/
def closeOnExec : UInt32 := 0x80000

/-- A discovery socket sees the frames of one EtherType. -/
def protocol : SocketKind → UInt16
  | control | session => 0
  | discovery => EtherType.discovery.networkValue

end SocketKind

namespace Kernel

namespace SocketOption

/-- Both options belong to sockets in general. -/
def level : UInt32 := 1

def number : SocketOption → UInt32
  | broadcast => 6
  | sendTimeout _ => 21

def value : SocketOption → List UInt8
  | broadcast => Wire.littleEndian 4 1
  | sendTimeout limit => limit.bytes

end SocketOption

inductive Argument
  | number (n : Int)
  /-- The symbolic name of a command. -/
  | command (name : String)
  | bytes (content : List UInt8)
deriving DecidableEq

structure SystemCall where
  name : String
  arguments : List Argument
deriving DecidableEq

namespace Argument

def descriptor (fd : Descriptor) : Argument := number fd

/-- Frames are sent and received without any flag. -/
def noFlags : Argument := number 0

end Argument

namespace Request

open Argument

def systemCall? : Request → Option SystemCall
  | openSocket kind =>
    some ⟨"socket",
      [number kind.family.toNat, number (kind.transfer ||| SocketKind.closeOnExec).toNat,
        number kind.protocol.toNat]⟩
  | interfaceIndex fd name =>
    some ⟨"ioctl", [descriptor fd, command "SIOCGIFINDEX", bytes name.toList]⟩
  | hardwareAddress fd name =>
    some ⟨"ioctl", [descriptor fd, command "SIOCGIFHWADDR", bytes name.toList]⟩
  | channelIndex fd => some ⟨"ioctl", [descriptor fd, command "PPPIOCGCHAN"]⟩
  | setOption fd option =>
    some ⟨"setsockopt",
      [descriptor fd, number SocketOption.level.toNat, number option.number.toNat,
        bytes option.value]⟩
  | bind fd address => some ⟨"bind", [descriptor fd, bytes address.bytes]⟩
  | connect fd address => some ⟨"connect", [descriptor fd, bytes address.bytes]⟩
  | statusFlags fd => some ⟨"fcntl", [descriptor fd, command "F_GETFL"]⟩
  | setStatusFlags fd flags =>
    some ⟨"fcntl", [descriptor fd, command "F_SETFL", number flags.toNat]⟩
  | send fd frame => some ⟨"send", [descriptor fd, bytes frame, noFlags]⟩
  | receive fd capacity => some ⟨"recvfrom", [descriptor fd, number capacity, noFlags]⟩
  | close fd => some ⟨"close", [descriptor fd]⟩
  | register _ | notifications .. => none

/-- A failed call returns its error number with the sign changed. -/
def returned {α : Type} (value : α → Int) : Except Errno α → Int
  | .ok a => value a
  | .error e => -e.code

/-- The number that a call returns: a descriptor, flags, a length, or zero where the answer is
left in memory. -/
def returnValue : (r : Request) → r.Answer → Int
  | openSocket _, a => returned (fun fd => (fd : Int)) a
  | interfaceIndex .., a => returned (fun _ => 0) a
  | hardwareAddress .., a => returned (fun _ => 0) a
  | channelIndex _, a => returned (fun _ => 0) a
  | setOption .., a => returned (fun _ => 0) a
  | bind .., a => returned (fun _ => 0) a
  | connect .., a => returned (fun _ => 0) a
  | statusFlags _, a => returned (fun flags => (flags.toNat : Int)) a
  | setStatusFlags .., a => returned (fun _ => 0) a
  | send .., a => returned (fun length => (length : Int)) a
  | receive .., a => returned (fun d => (d.payload.length : Int)) a
  | close _, a => returned (fun _ => 0) a
  | register _, a => returned (fun _ => 0) a
  | notifications .., n => n

end Request

end Kernel

end PppoeSetup
