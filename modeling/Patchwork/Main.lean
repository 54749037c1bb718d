import Patchwork.CommandLine.Report

open Patchwork.CommandLine

def main (args : List String) : IO UInt32 := do
  let o := outcome args
  IO.print o.text
  match o.ending with
  | .failure f => IO.eprintln f.message
  | _ => pure ()
  return o.ending.status.toUInt32
