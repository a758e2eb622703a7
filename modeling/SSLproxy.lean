import SSLproxy.Opts.Core
import SSLproxy.Opts.Setters
import SSLproxy.Opts.Clone
import SSLproxy.Opts.SetOption
import SSLproxy.Spec.Parse
import SSLproxy.Conf.Lines
import SSLproxy.Buffer
import SSLproxy.Conf.NameValue
import SSLproxy.Spec.Block
import SSLproxy.Spec.Protocol
import SSLproxy.Spec.Destination
import SSLproxy.Conf.Global
import SSLproxy.Conf.Pathspec
import SSLproxy.Conf.Dispatch
import SSLproxy.Conf.Load
import SSLproxy.Conf.Include
import SSLproxy.Conf.Comments
import SSLproxy.Conf.Compose
import SSLproxy.Conf.Forms
import SSLproxy.Conf.Listeners
import SSLproxy.Conf.Inherit
import SSLproxy.Conf.Reachable
import SSLproxy.Conf.Override
import SSLproxy.Conf.Repeat
import SSLproxy.Conf.Bounds
