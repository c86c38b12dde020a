import ScriptCache.Bitcode.Wrapper
import ScriptCache.Build.Driver
import ScriptCache.Bytes
import ScriptCache.Compiler.Basic
import ScriptCache.Compiler.Config
import ScriptCache.Compiler.External
import ScriptCache.Compiler.Scripted
import ScriptCache.Config.Decode
import ScriptCache.Config.Environment
import ScriptCache.Config.Error
import ScriptCache.Config.File
import ScriptCache.Config.Precision
import ScriptCache.Config.Settings
import ScriptCache.Dependency.Table
import ScriptCache.Digest.Basic
import ScriptCache.Digest.XXH3
import ScriptCache.Duration
import ScriptCache.Event
import ScriptCache.Lock.FileLock
import ScriptCache.Lock.RetryPolicy
import ScriptCache.Machine.Basic
import ScriptCache.Machine.Disk
import ScriptCache.Machine.Files
import ScriptCache.Machine.Path
import ScriptCache.Machine.Routine
import ScriptCache.Machine.SysError
import ScriptCache.Object.Executable
import ScriptCache.Object.Image
import ScriptCache.Object.Resolver
import ScriptCache.Shell.Arithmetic
import ScriptCache.Shell.Builtin.Aliases
import ScriptCache.Shell.Builtin.Basic
import ScriptCache.Shell.Builtin.Folders
import ScriptCache.Shell.Builtin.Limits
import ScriptCache.Shell.Builtin.Processes
import ScriptCache.Shell.Builtin.Reading
import ScriptCache.Shell.Builtin.Table
import ScriptCache.Shell.Builtin.Texts
import ScriptCache.Shell.Builtin.Variables
import ScriptCache.Shell.Checksum.Basic
import ScriptCache.Shell.Checksum.Blake
import ScriptCache.Shell.Checksum.Md5
import ScriptCache.Shell.Checksum.Sha
import ScriptCache.Shell.Checksum.Sm3
import ScriptCache.Shell.Checksum.Sum
import ScriptCache.Shell.Command
import ScriptCache.Shell.Condition
import ScriptCache.Shell.Dump
import ScriptCache.Shell.Edit.Basic
import ScriptCache.Shell.Edit.Reading
import ScriptCache.Shell.Edit.Running
import ScriptCache.Shell.Edit.Session
import ScriptCache.Shell.Encoding
import ScriptCache.Shell.Expansion
import ScriptCache.Shell.Format
import ScriptCache.Shell.Grammar
import ScriptCache.Shell.Launch
import ScriptCache.Shell.Mode
import ScriptCache.Shell.Numeric
import ScriptCache.Shell.Pattern
import ScriptCache.Shell.Program
import ScriptCache.Shell.Reader
import ScriptCache.Shell.Regex
import ScriptCache.Shell.Run
import ScriptCache.Shell.Schedule
import ScriptCache.Shell.Signal
import ScriptCache.Shell.State
import ScriptCache.Shell.Utility.Arguments
import ScriptCache.Shell.Utility.Call
import ScriptCache.Shell.Utility.Checksums
import ScriptCache.Shell.Utility.Circumstances
import ScriptCache.Shell.Utility.Columns
import ScriptCache.Shell.Utility.Dump
import ScriptCache.Shell.Utility.Edit
import ScriptCache.Shell.Utility.Encodings
import ScriptCache.Shell.Utility.Files
import ScriptCache.Shell.Utility.Listing
import ScriptCache.Shell.Utility.Numbers
import ScriptCache.Shell.Utility.Quoting
import ScriptCache.Shell.Utility.Search
import ScriptCache.Shell.Utility.Show
import ScriptCache.Shell.Utility.Sort
import ScriptCache.Shell.Utility.Start
import ScriptCache.Shell.Utility.System
import ScriptCache.Shell.Utility.Table
import ScriptCache.Shell.Utility.Translate
import ScriptCache.Shell.Utility.Tree
import ScriptCache.Slot.Basic
import ScriptCache.Slot.InfoFile
import ScriptCache.Slot.Metadata
import ScriptCache.Slot.Store
import ScriptCache.Text.Blank
import ScriptCache.Text.Latin
import ScriptCache.Text.Name
import ScriptCache.Text.Numeral
import ScriptCache.Text.Printable
import ScriptCache.Text.Quoted
import ScriptCache.Text.Utf8
import ScriptCache.Toml.Document
import ScriptCache.Toml.Number
import ScriptCache.Toml.Parser
import ScriptCache.Toml.Scalar
import ScriptCache.Toml.Value
import ScriptCache.Wire.Cursor
import ScriptCache.Wire.Format
import ScriptCache.Proofs.Bitcode.Grammar
import ScriptCache.Proofs.Bitcode.Reading
import ScriptCache.Proofs.Bitcode.Wrapping
import ScriptCache.Proofs.Build.Aftermath
import ScriptCache.Proofs.Build.Binding
import ScriptCache.Proofs.Build.Calls
import ScriptCache.Proofs.Build.CommandLine
import ScriptCache.Proofs.Build.Failing
import ScriptCache.Proofs.Build.Forcing
import ScriptCache.Proofs.Build.Inputs
import ScriptCache.Proofs.Build.LongestWait
import ScriptCache.Proofs.Build.Resilience
import ScriptCache.Proofs.Build.Reuse
import ScriptCache.Proofs.Build.Transparency
import ScriptCache.Proofs.Build.Usage
import ScriptCache.Proofs.Config.Overlays
import ScriptCache.Proofs.Dependency.Encoding
import ScriptCache.Proofs.Dependency.Multiset
import ScriptCache.Proofs.Entries
import ScriptCache.Proofs.Lock.Attempts
import ScriptCache.Proofs.Lock.Backoff
import ScriptCache.Proofs.Lock.Exclusion
import ScriptCache.Proofs.Lock.Rivals
import ScriptCache.Proofs.Lock.Stake
import ScriptCache.Proofs.Lock.Waiting
import ScriptCache.Proofs.Machine.Contents
import ScriptCache.Proofs.Machine.Ensuring
import ScriptCache.Proofs.Machine.Faults
import ScriptCache.Proofs.Machine.Folder
import ScriptCache.Proofs.Machine.Keeping
import ScriptCache.Proofs.Machine.Lapse
import ScriptCache.Proofs.Machine.OpenFiles
import ScriptCache.Proofs.Machine.Passing
import ScriptCache.Proofs.Machine.Paths
import ScriptCache.Proofs.Machine.Reach
import ScriptCache.Proofs.Machine.Removal
import ScriptCache.Proofs.Machine.Sight
import ScriptCache.Proofs.Machine.Walk
import ScriptCache.Proofs.Object.ImageFrame
import ScriptCache.Proofs.Object.Precedence
import ScriptCache.Proofs.Slot.Apart
import ScriptCache.Proofs.Slot.InfoFrame
import ScriptCache.Proofs.Slot.Names
import ScriptCache.Proofs.Store.Alone
import ScriptCache.Proofs.Store.Available
import ScriptCache.Proofs.Store.Closing
import ScriptCache.Proofs.Store.Crash
import ScriptCache.Proofs.Store.Failing
import ScriptCache.Proofs.Store.Gripping
import ScriptCache.Proofs.Store.Harmless
import ScriptCache.Proofs.Store.HeldLocks
import ScriptCache.Proofs.Store.Insert
import ScriptCache.Proofs.Store.Inserting
import ScriptCache.Proofs.Store.Interleaving
import ScriptCache.Proofs.Store.Lasting
import ScriptCache.Proofs.Store.Launches
import ScriptCache.Proofs.Store.Ledger
import ScriptCache.Proofs.Store.Locking
import ScriptCache.Proofs.Store.Lookup
import ScriptCache.Proofs.Store.Party
import ScriptCache.Proofs.Store.Refinement
import ScriptCache.Proofs.Store.Revision
import ScriptCache.Proofs.Store.Still
import ScriptCache.Proofs.Store.Verdict
import ScriptCache.Proofs.Wire.Limit
import ScriptCache.Proofs.Wire.RoundTrip
import ScriptCache.Proofs.Wire.Spelling
import ScriptCache.Proofs.Object.Linking
import ScriptCache.Proofs.Slot.Framing
